import LiveShader.Proofs.Files.Location

/-!
# Walks into a directory

A walk along names goes on from where a shorter one ended, and it ends only if the shorter
one ended at a directory.  So all names that are joined to one path lead into the same
directory, however the path is spelled, and different names lead to different entries.
-/

namespace LiveShader.Files.Tree

open LiveShader.Text

variable {tree : Tree} {names rest : List String} {name : String} {here found : Location}

/-- What is joined to names that lead to a directory is walked from there. -/
theorem walk_append (reached : tree.walk here names = .ok (found, some .directory))
    (rest : List String) : tree.walk here (names ++ rest) = tree.walk found rest := by
  induction names generalizing here with
  | nil =>
      cases reached
      rfl
  | cons first names ih =>
      rw [walk] at reached
      rw [List.cons_append, walk]
      split at reached
      · rename_i idle
        rw [if_pos idle]
        exact ih reached
      · rename_i notIdle
        rw [if_neg notIdle]
        split at reached
        · rename_i up
          rw [if_pos up]
          exact ih reached
        · rename_i notUp
          rw [if_neg notUp]
          split at reached
          · cases reached
          · rename_i short
            rw [if_neg short]
            dsimp only at reached ⊢
            split at reached
            · exact ih reached
            all_goals split at reached <;> cases reached

/-- Only the last name of a walk can lead to something else than a directory. -/
theorem exists_directory_of_walk {answer : Location × Option Entry}
    (walked : tree.walk here (names ++ [name]) = .ok answer) :
    ∃ found, tree.walk here names = .ok (found, some .directory) := by
  induction names generalizing here with
  | nil => exact ⟨here, rfl⟩
  | cons first names ih =>
      rw [List.cons_append, walk] at walked
      rw [walk]
      split at walked
      · rename_i idle
        rw [if_pos idle]
        exact ih walked
      · rename_i notIdle
        rw [if_neg notIdle]
        split at walked
        · rename_i up
          rw [if_pos up]
          exact ih walked
        · rename_i notUp
          rw [if_neg notUp]
          split at walked
          · cases walked
          · rename_i short
            rw [if_neg short]
            dsimp only at walked ⊢
            split at walked
            · exact ih walked
            all_goals
              rw [if_neg (by simp)] at walked
              cases walked

/-! ## Names joined to one path -/

/-- The names that a path has in front of one that is joined to it. -/
def namesBefore (directory : Path) : List String :=
  ((pieces (· == '/') (Path.front directory)).filter (!·.isEmpty)).map String.ofList

/-- Where a walk along names joined to a path starts. -/
def startOf (tree : Tree) (directory : Path) : Location :=
  if (Path.front directory).head? = some '/' then [] else tree.workingDirectory

section Joined

variable {directory : Path}

theorem pathNames_join_path (directory : Path) (named : Path.Plain name.toList) :
    pathNames (Path.join directory name) = namesBefore directory ++ [name] := by
  have solid : ∀ c ∈ name.toList, (c == '/') = false := by
    intro c member
    rw [beq_eq_false_iff_ne]
    rintro rfl
    exact named.noSlash member
  have ended : (Path.front directory ++ name.toList).getLast? ≠ some '/' := by
    intro last
    rw [List.getLast?_append] at last
    cases ending : name.toList.getLast? with
    | none => exact named.full (List.getLast?_eq_none_iff.mp ending)
    | some c =>
        rw [ending] at last
        cases last
        exact named.noSlash (List.mem_of_getLast? ending)
  have cut : (pieces (· == '/') (Path.front directory ++ name.toList)).filter (!·.isEmpty) =
      (pieces (· == '/') (Path.front directory)).filter (!·.isEmpty) ++ [name.toList] := by
    rcases Path.leading_front directory with empty | slash
    · rw [empty, List.nil_append, pieces_of_solid solid]
      simp [pieces, named.full]
    · obtain ⟨before, shape⟩ := List.getLast?_eq_some_iff.mp slash
      rw [shape, List.append_assoc, List.singleton_append,
        pieces_append_separator before rfl name.toList, pieces_append_separator before rfl [],
        pieces_of_solid solid]
      simp [pieces, named.full]
  unfold pathNames
  rw [Path.join_eq named, String.toList_ofList]
  dsimp only
  rw [if_neg ended, cut, List.map_append, namesBefore]
  simp

theorem locate_join_path (directory : Path) (named : Path.Plain name.toList) :
    tree.locate (Path.join directory name) =
      if (Path.join directory name).toList.contains '\x00' then .error .nulInName
      else if 4096 ≤ (Path.join directory name).utf8ByteSize then .error .nameTooLong
      else tree.walk (tree.startOf directory) (namesBefore directory ++ [name]) := by
  have full : (Path.join directory name).isEmpty = false := by
    rw [Bool.eq_false_iff]
    intro empty
    have letters := congrArg String.toList (String.isEmpty_iff.mp empty)
    rw [Path.join_eq named, String.toList_ofList] at letters
    exact named.full (List.append_eq_nil_iff.mp letters).2
  have start : (Path.join directory name).toList.head? = some '/' ↔
      (Path.front directory).head? = some '/' := by
    rw [Path.join_eq named, String.toList_ofList, List.head?_append]
    cases (Path.front directory).head? with
    | some c => rfl
    | none =>
        have relative : name.toList.head? ≠ some '/' := fun slash =>
          named.noSlash (List.mem_of_mem_head? slash)
        simp [relative]
  rw [locate, full, pathNames_join_path directory named, startOf]
  simp only [start]
  rfl

/-- What is found under a name that is joined to a path lies in the directory of the path. -/
theorem find_join_path (named : Path.Plain name.toList) {entry : Entry}
    (present : tree.find (Path.join directory name) = .ok (found, entry)) :
    ∃ home, tree.walk (tree.startOf directory) (namesBefore directory) =
        .ok (home, some .directory) ∧
      tree.walk home [name] = .ok (found, some entry) := by
  rw [find, locate_join_path directory named] at present
  split at present
  · cases present
  split at present
  · cases present
  cases walked : tree.walk (tree.startOf directory) (namesBefore directory ++ [name]) with
  | error cause =>
      rw [walked] at present
      cases present
  | ok answer =>
      obtain ⟨home, reached⟩ := exists_directory_of_walk walked
      rw [walked] at present
      rw [walk_append reached] at walked
      rcases answer with ⟨location, _ | entry'⟩
      · cases present
      · cases present
        exact ⟨home, reached, walked⟩

/-- A tree has an entry for every name with a text that is joined to one path. -/
theorem length_le_of_readable {names : List String} (distinct : names.Nodup)
    (readable : ∀ name ∈ names, Path.Plain name.toList ∧
      ∃ text, tree.readText (Path.join directory name) = .ok text) :
    names.length ≤ tree.entries.length := by
  have located : ∀ name ∈ names, ∃ home entry,
      tree.walk (tree.startOf directory) (namesBefore directory) = .ok (home, some .directory) ∧
        (home ++ [name], entry) ∈ tree.entries := by
    intro name member
    obtain ⟨named, text, read⟩ := readable name member
    rw [readText] at read
    cases present : tree.find (Path.join directory name) with
    | error cause =>
        rw [present] at read
        cases read
    | ok item =>
        rw [present] at read
        rcases item with ⟨location, _ | content⟩
        · cases read
        · obtain ⟨home, reached, walked⟩ := find_join_path named present
          have plain : PlainLocation [name] := by simpa [PlainLocation] using named
          have entry := lookup_of_walk home plain walked
          exact ⟨home, _, reached, mem_entries_of_lookup (by simp) entry⟩
  rcases names with _ | ⟨first, names⟩
  · exact Nat.zero_le _
  obtain ⟨home, _, reached, _⟩ := located first List.mem_cons_self
  -- All names lead into the same directory, so different names have different locations.
  have inside : (first :: names).map (fun name => home ++ [name]) ⊆
      tree.entries.map Prod.fst := by
    intro location member
    obtain ⟨name, present, rfl⟩ := List.mem_map.mp member
    obtain ⟨home', entry, again, listed⟩ := located name present
    cases reached.symm.trans again
    exact List.mem_map_of_mem listed
  have locations : ((first :: names).map fun name => home ++ [name]).Nodup := by
    apply List.Pairwise.map _ _ distinct
    intro one other differ same
    exact differ (by simpa using same)
  have shorter := locations.length_le_of_subset inside
  rwa [List.length_map, List.length_map] at shorter

end Joined

end LiveShader.Files.Tree
