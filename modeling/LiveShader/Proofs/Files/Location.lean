import LiveShader.Files.Tree
import LiveShader.Proofs.Files.Path
import LiveShader.Proofs.Text.Blank

/-!
# Plain locations

The names of a plain location can all be names of directories.  Its path leads to it
name by name, so that what a walk finds there depends on the entries on the way only.
-/

namespace LiveShader.Files.Tree

open LiveShader.Text

/-- A location whose names can all be names of directories. -/
def PlainLocation (location : Location) : Prop := ∀ name ∈ location, Path.Plain name.toList

variable {location : Location} {name : String}

/-! ## Paths -/

/-- Names with a slash behind each of them. -/
def slashed (location : Location) : List Char :=
  location.flatMap fun name => name.toList ++ ['/']

theorem intercalate_append_slash (location : Location) (name : String) :
    (String.intercalate "/" (location ++ [name])).toList =
      slashed location ++ name.toList := by
  induction location with
  | nil => simp [slashed]
  | cons first location ih =>
      rw [List.cons_append, String.intercalate_cons_of_ne_nil (by simp), String.toList_append,
        String.toList_append, ih]
      simp [slashed]

theorem toList_pathOf (location : Location) (name : String) :
    (pathOf (location ++ [name])).toList = '/' :: (slashed location ++ name.toList) := by
  rw [pathOf]
  rw [String.toList_append, intercalate_append_slash]
  rfl

theorem getLast?_toList_pathOf (above : Location) {last : String}
    (plain : Path.Plain last.toList) : (pathOf (above ++ [last])).toList.getLast? ≠ some '/' := by
  intro slash
  have inner : last.toList.getLast? = some '/' := by
    rw [toList_pathOf, ← List.cons_append, List.getLast?_append] at slash
    cases equal : last.toList.getLast? with
    | none => exact absurd (List.getLast?_eq_none_iff.mp equal) plain.full
    | some c =>
        rw [equal] at slash
        exact slash
  exact plain.noSlash (List.mem_of_getLast? inner)

theorem front_pathOf (plain : PlainLocation location) :
    Path.front (pathOf location) = '/' :: slashed location := by
  rcases List.eq_nil_or_concat location with rfl | ⟨above, last, rfl⟩
  · rfl
  · rw [List.concat_eq_append] at plain ⊢
    have lastPlain : Path.Plain last.toList := plain last (by simp)
    have full : (pathOf (above ++ [last])).toList ≠ [] := by simp [toList_pathOf]
    rw [← String.ofList_toList (s := pathOf (above ++ [last])),
      Path.front_ofList full (getLast?_toList_pathOf above lastPlain), toList_pathOf]
    simp [slashed]

/-- The path of a directory is settled. -/
theorem settled_pathOf (plain : PlainLocation location) : Path.Settled (pathOf location) := by
  rcases List.eq_nil_or_concat location with rfl | ⟨above, last, rfl⟩
  · rfl
  · rw [List.concat_eq_append] at plain ⊢
    have lastPlain : Path.Plain last.toList := plain last (by simp)
    have spelled : pathOf (above ++ [last]) =
        String.ofList (['/'] ++ (slashed above ++ last.toList)) := by
      rw [← String.ofList_toList (s := pathOf (above ++ [last])), toList_pathOf]
      rfl
    have ends := getLast?_toList_pathOf above lastPlain
    rw [spelled, String.toList_ofList] at ends
    rw [spelled]
    apply Path.settled_of_ends (by simp) ends rfl
    rw [List.reverse_append]
    exact lastPlain.dropIdle_reverse_append (slashed above).reverse

theorem pieces_slashed (plain : PlainLocation location) (rest : List Char) :
    pieces (· == '/') (slashed location ++ rest) =
      location.map String.toList ++ pieces (· == '/') rest := by
  induction location with
  | nil => rfl
  | cons first location ih =>
      have solid : ∀ c ∈ first.toList, (c == '/') = false := by
        intro c member
        rw [beq_eq_false_iff_ne]
        rintro rfl
        exact (plain first List.mem_cons_self).noSlash member
      have later : PlainLocation location := fun other member =>
        plain other (List.mem_cons_of_mem first member)
      have shape : slashed (first :: location) ++ rest =
          first.toList ++ '/' :: (slashed location ++ rest) := by
        simp [slashed]
      rw [shape, pieces_append_cons solid (by rfl), ih later]
      rfl

/-- The names of the path of a file. -/
theorem pathNames_join (plain : PlainLocation location) (named : Path.Plain name.toList) :
    pathNames (Path.join (pathOf location) name) = location ++ [name] := by
  have solid : ∀ c ∈ name.toList, (c == '/') = false := by
    intro c member
    rw [beq_eq_false_iff_ne]
    rintro rfl
    exact named.noSlash member
  have cut : pieces (· == '/') ('/' :: (slashed location ++ name.toList)) =
      [] :: (location ++ [name]).map String.toList := by
    rw [pieces_cons_of_separator (by rfl), pieces_slashed plain, pieces_of_solid solid]
    simp
  have ended : ('/' :: (slashed location ++ name.toList)).getLast? ≠ some '/' := by
    rw [← toList_pathOf]
    exact getLast?_toList_pathOf location named
  have full : ∀ first ∈ location ++ [name], first.toList ≠ [] := by
    intro first member
    rcases List.mem_append.mp member with above | last
    · exact (plain first above).full
    · rw [List.mem_singleton.mp last]
      exact named.full
  have kept : ((location ++ [name]).map String.toList).filter (!·.isEmpty) =
      (location ++ [name]).map String.toList := by
    rw [List.filter_eq_self]
    intro text member
    obtain ⟨first, present, rfl⟩ := List.mem_map.mp member
    simpa using full first present
  unfold pathNames
  rw [Path.join_eq named, front_pathOf plain, String.toList_ofList, List.cons_append]
  dsimp only
  rw [cut, if_neg ended, List.filter_cons_of_neg (by simp), kept, List.map_map]
  simp

/-! ## Walks along plain names -/

section Walks

variable {tree other : Tree}

theorem walk_cons (here : Location) {first : String} (named : Path.Plain first.toList)
    (rest : Location) :
    tree.walk here (first :: rest) =
      if 255 < first.utf8ByteSize then .error .nameTooLong
      else
        match tree.lookup (here ++ [first]) with
        | some .directory => tree.walk (here ++ [first]) rest
        | some (.file content) =>
            if rest.isEmpty then .ok (here ++ [first], some (.file content))
            else .error .notADirectory
        | none => if rest.isEmpty then .ok (here ++ [first], none) else .error .notFound := by
  have notHere : first ≠ "." := fun equal => named.notHere (congrArg String.toList equal)
  have notUp : first ≠ ".." := fun equal => named.notUp (congrArg String.toList equal)
  rw [walk]
  exact (if_neg (by simpa using notHere)).trans (if_neg (by simpa using notUp))

/-- A walk along plain names depends on the entries that it passes only. -/
theorem walk_congr (here : Location) (plain : PlainLocation location)
    (agree : ∀ passed, passed <+: here ++ location → here.length < passed.length →
      tree.lookup passed = other.lookup passed) :
    tree.walk here location = other.walk here location := by
  induction location generalizing here with
  | nil => rfl
  | cons first rest ih =>
      have named := plain first List.mem_cons_self
      have same : tree.lookup (here ++ [first]) = other.lookup (here ++ [first]) := by
        apply agree
        · simp
        · simp
      have further : tree.walk (here ++ [first]) rest = other.walk (here ++ [first]) rest := by
        apply ih
        · exact fun name member => plain name (List.mem_cons_of_mem first member)
        · intro passed shorter longer
          apply agree passed
          · rwa [List.append_assoc] at shorter
          · rw [List.length_append] at longer
            exact Nat.lt_of_succ_lt longer
      rw [walk_cons here named, walk_cons here named, same, further]

theorem lookup_of_walk (here : Location) (plain : PlainLocation location) {found : Location}
    {content : Content}
    (walked : tree.walk here location = .ok (found, some (.file content))) :
    tree.lookup (here ++ location) = some (.file content) := by
  induction location generalizing here with
  | nil => cases walked
  | cons first rest ih =>
      have later : PlainLocation rest := fun name member =>
        plain name (List.mem_cons_of_mem first member)
      rw [walk_cons here (plain first List.mem_cons_self)] at walked
      split at walked
      · cases walked
      · split at walked
        · have below := ih (here ++ [first]) later walked
          rwa [List.append_assoc] at below
        · rename_i present
          split at walked
          · rename_i last
            rw [List.isEmpty_iff] at last
            cases walked
            rw [last]
            exact present
          · cases walked
        · split at walked <;> cases walked

/-- A walk along plain names ends at the location that they spell. -/
theorem location_of_walk (here : Location) (plain : PlainLocation location) {found : Location}
    {entry : Option Entry} (walked : tree.walk here location = .ok (found, entry)) :
    found = here ++ location := by
  induction location generalizing here with
  | nil =>
      cases walked
      exact (List.append_nil _).symm
  | cons first rest ih =>
      have later : PlainLocation rest := fun name member =>
        plain name (List.mem_cons_of_mem first member)
      rw [walk_cons here (plain first List.mem_cons_self)] at walked
      split at walked
      · cases walked
      · split at walked
        · rw [ih (here ++ [first]) later walked]
          simp
        all_goals
          split at walked
          · rename_i last
            rw [List.isEmpty_iff] at last
            cases walked
            rw [last]
          · cases walked

theorem plain_of_mem_pathNames {path : Path} {name : String} (member : name ∈ pathNames path)
    (notHere : name ≠ ".") (notUp : name ≠ "..") : Path.Plain name.toList := by
  rw [pathNames] at member
  obtain ⟨text, listed, rfl⟩ := List.mem_map.mp member
  have spelled : text ∈ (pieces (· == '/') path.toList).filter (!·.isEmpty) := by
    split at listed
    · rcases List.mem_append.mp listed with piece | last
      · exact piece
      · rw [List.mem_singleton.mp last] at notHere
        exact absurd rfl notHere
    · exact listed
  obtain ⟨piece, full⟩ := List.mem_filter.mp spelled
  refine ⟨?_, ?_, ?_, ?_⟩
  · intro slash
    have inside := solid_of_mem_pieces piece '/' (by simpa using slash)
    simp at inside
  · simpa using full
  · intro here
    rw [String.toList_ofList] at here
    exact notHere (congrArg String.ofList here)
  · intro up
    rw [String.toList_ofList] at up
    exact notUp (congrArg String.ofList up)

/-- A walk that starts at a plain location ends at one. -/
theorem plain_of_walk {names : List String}
    (spelled : ∀ name ∈ names, name ≠ "." → name ≠ ".." → Path.Plain name.toList)
    {here found : Location} {entry : Option Entry} (plain : PlainLocation here)
    (walked : tree.walk here names = .ok (found, entry)) : PlainLocation found := by
  induction names generalizing here with
  | nil =>
      cases walked
      exact plain
  | cons first rest ih =>
      have later := fun name member => spelled name (List.mem_cons_of_mem first member)
      rw [walk] at walked
      split at walked
      · exact ih later plain walked
      · rename_i notHere
        split at walked
        · refine ih later ?_ walked
          exact fun name member => plain name (List.dropLast_subset here member)
        · rename_i notUp
          have named : Path.Plain first.toList :=
            spelled first List.mem_cons_self (by simpa using notHere) (by simpa using notUp)
          have further : PlainLocation (here ++ [first]) := by
            intro name member
            rcases List.mem_append.mp member with above | last
            · exact plain name above
            · rw [List.mem_singleton.mp last]
              exact named
          split at walked
          · cases walked
          · dsimp only at walked
            split at walked
            · exact ih later further walked
            all_goals
              split at walked
              · cases walked
                exact further
              · cases walked

/-- The location of something that exists is plain. -/
theorem plain_of_find {path : Path} {found : Location} {entry : Entry}
    (home : PlainLocation tree.workingDirectory) (present : tree.find path = .ok (found, entry)) :
    PlainLocation found := by
  rw [find] at present
  cases located : tree.locate path with
  | error cause =>
      rw [located] at present
      cases present
  | ok answer =>
      rw [located] at present
      rcases answer with ⟨location, _ | entry'⟩
      · cases present
      · cases present
        have spelled : ∀ name ∈ pathNames path, name ≠ "." → name ≠ ".." →
            Path.Plain name.toList := fun _ => plain_of_mem_pathNames
        rw [locate] at located
        split at located
        · cases located
        · split at located
          · cases located
          · split at located
            · cases located
            · dsimp only at located
              split at located
              · refine plain_of_walk spelled ?_ located
                intro name member
                cases member
              · exact plain_of_walk spelled home located

end Walks

/-! ## Entries after a change -/

section Entries

variable {tree : Tree} {changed : Location}

theorem lookup_put_of_ne (entry : Entry) (differ : location ≠ changed) :
    (tree.put changed entry).lookup location = tree.lookup location := by
  have last : (changed == location) = false := by
    rw [beq_eq_false_iff_ne]
    exact Ne.symm differ
  have found : (tree.put changed entry).entries.find? (fun item => item.1 == location) =
      tree.entries.find? fun item => item.1 == location := by
    rw [put]
    simp only [List.find?_append, List.find?_filter, List.find?_singleton, last]
    simp only [Bool.false_eq_true, if_false, Option.or_none]
    apply congrArg (fun test => List.find? test tree.entries)
    funext item
    by_cases here : item.1 = location
    · simp [here, differ]
    · simp [here]
  simp only [lookup]
  rw [found]

theorem lookup_erase_of_apart (apart : ¬ changed <+: location) :
    (tree.erase changed).lookup location = tree.lookup location := by
  have found : (tree.erase changed).entries.find? (fun item => item.1 == location) =
      tree.entries.find? fun item => item.1 == location := by
    rw [erase]
    rw [List.find?_filter]
    apply congrArg (fun test => List.find? test tree.entries)
    funext item
    by_cases here : item.1 = location
    · have kept : changed.isPrefixOf location = false := by
        rw [Bool.eq_false_iff]
        exact fun below => apart (List.isPrefixOf_iff_prefix.mp below)
      simp [here, kept]
    · simp [here]
  simp only [lookup]
  rw [found]

theorem lookup_erase_self (full : changed ≠ []) : (tree.erase changed).lookup changed = none := by
  have gone : (tree.erase changed).entries.find? (fun item => item.1 == changed) = none := by
    rw [erase]
    rw [List.find?_filter, List.find?_eq_none]
    intro item _ both
    by_cases here : item.1 = changed
    · have below : changed.isPrefixOf changed = true :=
        List.isPrefixOf_iff_prefix.mpr List.prefix_rfl
      simp [here, below] at both
    · simp [here] at both
  rw [lookup]
  rw [gone]
  simp [full]

theorem mem_entries_of_lookup {entry : Entry} (full : location ≠ [])
    (present : tree.lookup location = some entry) : (location, entry) ∈ tree.entries := by
  rw [lookup] at present
  rw [if_neg (by simpa using full)] at present
  obtain ⟨item, found, rfl⟩ := Option.map_eq_some_iff.mp present
  have same : item.1 = location := by simpa using List.find?_some found
  rw [← same]
  exact List.mem_of_find?_eq_some found

end Entries

end LiveShader.Files.Tree
