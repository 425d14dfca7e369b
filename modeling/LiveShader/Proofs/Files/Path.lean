import LiveShader.Files.Path

/-!
# Files in the directory of a path

A plain name joined to a directory is the last name of the result.  The directory of a
path is settled: a path that is joined to it has the same directory again, spelled in
the same way.
-/

namespace LiveShader.Files.Path

/-- A name that a file in a directory can have: no slash, and not one of `.` and `..`. -/
structure Plain (name : List Char) : Prop where
  noSlash : '/' ∉ name
  full : name ≠ []
  notHere : name ≠ ['.']
  notUp : name ≠ ['.', '.']

theorem plain_of_length {name : List Char} (noSlash : '/' ∉ name) (long : 2 < name.length) :
    Plain name := by
  refine ⟨noSlash, ?_, ?_, ?_⟩ <;>
    · rintro rfl
      simp at long

/-- A text in front of a last name: empty, or ended by a slash. -/
def Leading (front : List Char) : Prop := front = [] ∨ front.getLast? = some '/'

section Names

variable {front name : List Char}

theorem dropIdle_cons {c : Char} (rest : List Char) (notSlash : c ≠ '/') (notDot : c ≠ '.') :
    dropIdle (c :: rest) = c :: rest := by
  unfold dropIdle
  split <;> simp_all

theorem dropIdle_dot_cons {c : Char} (rest : List Char) (notSlash : c ≠ '/') :
    dropIdle ('.' :: c :: rest) = '.' :: c :: rest := by
  unfold dropIdle
  split <;> simp_all

/-- The characters of a name all count. -/
theorem Plain.dropIdle_reverse_append (plain : Plain name) (rest : List Char) :
    dropIdle (name.reverse ++ rest) = name.reverse ++ rest := by
  have absent : '/' ∉ name.reverse := by simpa using plain.noSlash
  have notHere : name.reverse ≠ ['.'] := by
    intro here
    exact plain.notHere (List.reverse_eq_cons_iff.mp here)
  have full : name.reverse ≠ [] := by simpa using plain.full
  match reversed : name.reverse with
  | [] => exact absurd reversed full
  | [c] =>
      rw [reversed] at absent notHere
      have notDot : c ≠ '.' := by
        rintro rfl
        exact notHere rfl
      exact dropIdle_cons rest (Ne.symm (List.ne_of_not_mem_cons absent)) notDot
  | c :: d :: more =>
      rw [reversed] at absent
      obtain ⟨notSlash, beyond⟩ := List.ne_and_not_mem_of_not_mem_cons absent
      by_cases dot : c = '.'
      · subst dot
        exact dropIdle_dot_cons (more ++ rest) (Ne.symm (List.ne_of_not_mem_cons beyond))
      · exact dropIdle_cons (d :: more ++ rest) (Ne.symm notSlash) dot

theorem Plain.lead_eq (plain : Plain name) : lead name = [] := by
  simp only [lead]
  split
  · exact absurd List.mem_cons_self plain.noSlash
  · exact absurd rfl plain.notHere
  · exact absurd (List.mem_cons_of_mem '.' List.mem_cons_self) plain.noSlash
  · rfl

theorem lead_of_ne {c : Char} (rest : List Char) (notSlash : c ≠ '/') (notDot : c ≠ '.') :
    lead (c :: rest) = [] := by
  simp only [lead]
  split <;> simp_all

theorem lead_dot_cons {c : Char} (rest : List Char) (notSlash : c ≠ '/') :
    lead ('.' :: c :: rest) = [] := by
  simp only [lead]
  split <;> simp_all

theorem lead_append (leading : Leading front) (plain : Plain name) :
    lead (front ++ name) = lead front := by
  rcases leading with rfl | last
  · exact plain.lead_eq
  · cases front with
    | nil => cases last
    | cons c front =>
        by_cases slash : c = '/'
        · rw [slash]
          rfl
        · by_cases dot : c = '.'
          · subst dot
            cases front with
            | nil => cases last
            | cons d front =>
                by_cases slash : d = '/'
                · rw [slash]
                  rfl
                · exact (lead_dot_cons _ slash).trans (lead_dot_cons _ slash).symm
          · exact (lead_of_ne _ slash dot).trans (lead_of_ne _ slash dot).symm

theorem lead_append_drop (text : List Char) :
    lead text ++ text.drop (lead text).length = text := by
  simp only [lead]
  split <;> rfl

theorem length_lead_le (text : List Char) : (lead text).length ≤ text.length := by
  simp only [lead]
  split <;> simp

theorem Leading.drop (leading : Leading front) (count : Nat) : Leading (front.drop count) := by
  rcases leading with rfl | last
  · exact Or.inl List.drop_nil
  · by_cases short : front.length ≤ count
    · exact Or.inl (List.drop_eq_nil_of_le short)
    · right
      rw [List.getLast?_drop, if_neg short]
      exact last

theorem Leading.reverse_eq (leading : Leading front) :
    front.reverse = [] ∨ ∃ rest, front.reverse = '/' :: rest := by
  rcases leading with rfl | last
  · exact Or.inl rfl
  · right
    rw [List.getLast?_eq_head?_reverse] at last
    cases equal : front.reverse with
    | nil =>
        rw [equal] at last
        cases last
    | cons c rest =>
        rw [equal] at last
        cases last
        exact ⟨rest, rfl⟩

/-- The last name of a path ends where a slash stands. -/
theorem cut_before_name (leading : Leading front) (noSlash : '/' ∉ name) :
    (name.reverse ++ front.reverse).takeWhile (· != '/') = name.reverse ∧
      (name.reverse ++ front.reverse).dropWhile (· != '/') = front.reverse := by
  have inName : ∀ c ∈ name.reverse, (c != '/') = true := by
    intro c member
    rw [bne_iff_ne]
    rintro rfl
    exact noSlash (List.mem_reverse.mp member)
  rw [List.takeWhile_append_of_pos inName, List.dropWhile_append_of_pos inName]
  rcases leading.reverse_eq with empty | ⟨rest, slash⟩
  · simp [empty]
  · simp [slash]

/-- The parts of a plain name behind its directory. -/
theorem parts?_append (leading : Leading front) (plain : Plain name) :
    parts? (String.ofList (front ++ name)) =
      some ⟨lead front, front.drop (lead front).length, name⟩ := by
  have cut := cut_before_name (leading.drop (lead front).length) plain.noSlash
  have body : dropIdle ((front ++ name).drop (lead front).length).reverse =
      name.reverse ++ (front.drop (lead front).length).reverse := by
    rw [List.drop_append_of_le_length (length_lead_le front), List.reverse_append,
      plain.dropIdle_reverse_append]
  have full : (name.reverse ++ (front.drop (lead front).length).reverse).isEmpty = false := by
    simp [plain.full]
  rw [parts?]
  simp only [String.toList_ofList, lead_append leading plain, body, full, cut.1, cut.2,
    List.reverse_reverse]
  rfl

end Names

/-! ## Joining -/

section Joining

variable {directory : Path} {name : String}

/-- What stands before a name that is joined to a directory. -/
def front (directory : Path) : List Char :=
  if directory.isEmpty then []
  else if directory.toList.getLast? = some '/' then directory.toList
  else directory.toList ++ ['/']

theorem leading_front (directory : Path) : Leading (front directory) := by
  rw [front]
  split
  · exact Or.inl rfl
  · split
    · right
      assumption
    · right
      simp

theorem join_eq (plain : Plain name.toList) :
    join directory name = String.ofList (front directory ++ name.toList) := by
  have relative : isAbsolute name = false := by
    rw [isAbsolute]
    rw [beq_eq_false_iff_ne]
    intro absolute
    exact plain.noSlash (List.mem_of_mem_head? absolute)
  rw [join, front]
  rw [relative, Bool.false_or]
  split
  · simp
  · split
    · rw [String.ofList_append]
      simp
    · simp [String.ofList_append, String.append_assoc]

/-- A plain name is the last name of a path that it was joined to. -/
theorem fileName?_join (plain : Plain name.toList) :
    fileName? (join directory name) = some name := by
  rw [fileName?]
  rw [join_eq plain, parts?_append (leading_front directory) plain]
  simp [plain.notUp]

/-! ### Directories -/

/-- The directory that a text in front of a name spells. -/
def home (front : List Char) : List Char :=
  lead front ++ (dropIdle (front.drop (lead front).length).reverse).reverse

theorem parent?_join (plain : Plain name.toList) :
    parent? (join directory name) = some (String.ofList (home (front directory))) := by
  rw [parent?]
  rw [join_eq plain, parts?_append (leading_front directory) plain]
  rfl

/-- The directory of a path, empty if it has none. -/
def directoryOf (path : Path) : Path := (parent? path).getD ""

/-- A directory that its own files have, spelled in the same way. -/
def Settled (directory : Path) : Prop := home (front directory) = directory.toList

theorem Settled.directoryOf_join (settled : Settled directory) (plain : Plain name.toList) :
    directoryOf (join directory name) = directory := by
  rw [directoryOf]
  rw [parent?_join plain, settled]
  simp

theorem settled_empty : Settled "" := rfl

theorem dropIdle_dropIdle (text : List Char) : dropIdle (dropIdle text) = dropIdle text := by
  fun_induction dropIdle text with
  | case1 rest ih => exact ih
  | case2 => rfl
  | case3 rest ih => exact ih
  | case4 text notSlash notDot notDotSlash =>
      unfold dropIdle
      split <;> simp_all

theorem dropIdle_suffix (text : List Char) : dropIdle text <:+ text := by
  fun_induction dropIdle text with
  | case1 rest ih => exact ih.trans (List.suffix_cons '/' rest)
  | case2 => exact List.nil_suffix
  | case3 rest ih =>
      exact ih.trans ((List.suffix_cons '/' rest).trans (List.suffix_cons '.' _))
  | case4 => exact List.suffix_rfl

section Spelled

variable {mark rest : List Char}

theorem home_append_slash (marked : lead (mark ++ rest ++ ['/']) = mark)
    (stable : dropIdle rest.reverse = rest.reverse) :
    home (mark ++ rest ++ ['/']) = mark ++ rest := by
  rw [home]
  rw [marked, List.append_assoc, List.drop_left, List.reverse_append]
  change mark ++ (dropIdle rest.reverse).reverse = mark ++ rest
  rw [stable, List.reverse_reverse]

theorem getLast?_ne_slash (stable : dropIdle rest.reverse = rest.reverse) :
    rest.getLast? ≠ some '/' := by
  intro last
  have leading : Leading rest := Or.inr last
  rcases leading.reverse_eq with empty | ⟨others, slash⟩
  · rw [List.reverse_eq_nil_iff] at empty
    rw [empty] at last
    cases last
  · rw [slash] at stable
    have shorter := (dropIdle_suffix others).length_le
    have same := congrArg List.length stable
    change (dropIdle others).length = others.length + 1 at same
    omega

theorem front_ofList {text : List Char} (full : text ≠ []) (last : text.getLast? ≠ some '/') :
    front (String.ofList text) = text ++ ['/'] := by
  rw [front]
  simp [full, last]

theorem settled_of_ends (full : mark ++ rest ≠ [])
    (last : (mark ++ rest).getLast? ≠ some '/') (marked : lead (mark ++ rest ++ ['/']) = mark)
    (stable : dropIdle rest.reverse = rest.reverse) :
    Settled (String.ofList (mark ++ rest)) := by
  rw [Settled]
  rw [front_ofList full last, home_append_slash marked stable, String.toList_ofList]

theorem lead_cases (text : List Char) :
    lead text = [] ∨ lead text = ['/'] ∨
      lead text = ['.'] ∧ (text = ['.'] ∨ ∃ rest, text = '.' :: '/' :: rest) := by
  simp only [lead]
  split
  · exact Or.inr (Or.inl rfl)
  · exact Or.inr (Or.inr ⟨rfl, Or.inl rfl⟩)
  · exact Or.inr (Or.inr ⟨rfl, Or.inr ⟨_, rfl⟩⟩)
  · exact Or.inl rfl

theorem lead_unmarked_cut {text : List Char} (unmarked : lead text = []) (cut : rest <+: text)
    (full : rest ≠ []) (stable : dropIdle rest.reverse = rest.reverse) :
    lead (rest ++ ['/']) = [] := by
  rcases rest with _ | ⟨c, rest⟩
  · exact absurd rfl full
  · rcases text with _ | ⟨c', text⟩
    · cases List.prefix_nil.mp cut
    · obtain ⟨rfl, shorter⟩ := List.cons_prefix_cons.mp cut
      have notSlash : c ≠ '/' := by
        rintro rfl
        cases unmarked
      by_cases dot : c = '.'
      · subst dot
        rcases rest with _ | ⟨d, rest⟩
        · cases stable
        · rcases text with _ | ⟨d', text⟩
          · cases List.prefix_nil.mp shorter
          · obtain ⟨rfl, _⟩ := List.cons_prefix_cons.mp shorter
            apply lead_dot_cons
            rintro rfl
            cases unmarked
      · exact lead_of_ne _ notSlash dot

/-- A mark stays when what follows it is cut short and a slash is put behind it. -/
theorem lead_cut {text : List Char} (cut : rest <+: text.drop (lead text).length)
    (full : lead text ++ rest ≠ []) (stable : dropIdle rest.reverse = rest.reverse) :
    lead (lead text ++ rest ++ ['/']) = lead text := by
  rcases lead_cases text with unmarked | slash | ⟨dot, spelled⟩
  · rw [unmarked] at cut full ⊢
    exact lead_unmarked_cut unmarked cut full stable
  · rw [slash]
    rfl
  · rw [dot] at cut ⊢
    rcases rest with _ | ⟨c, rest⟩
    · rfl
    · rcases spelled with rfl | ⟨others, rfl⟩
      · cases List.prefix_nil.mp cut
      · obtain ⟨rfl, _⟩ := List.cons_prefix_cons.mp cut
        rfl

end Spelled

theorem settled_parent {text rest : List Char} (cut : rest <+: text.drop (lead text).length)
    (stable : dropIdle rest.reverse = rest.reverse) :
    Settled (String.ofList (lead text ++ rest)) := by
  by_cases empty : lead text ++ rest = []
  · rw [empty]
    exact settled_empty
  by_cases last : (lead text ++ rest).getLast? = some '/'
  · by_cases full : rest = []
    · subst full
      rcases lead_cases text with unmarked | slash | ⟨dot, _⟩
      · rw [unmarked] at last
        cases last
      · rw [slash]
        rfl
      · rw [dot] at last
        cases last
    · have inner : rest.getLast? = some '/' := by
        rw [List.getLast?_append] at last
        cases equal : rest.getLast? with
        | none => exact absurd (List.getLast?_eq_none_iff.mp equal) full
        | some c =>
            rw [equal] at last
            exact last
      exact absurd inner (getLast?_ne_slash stable)
  · exact settled_of_ends empty last (lead_cut cut empty stable) stable

/-- A path that is joined to the directory of a path has the same directory. -/
theorem settled_directoryOf (path : Path) : Settled (directoryOf path) := by
  rw [directoryOf, parent?]
  cases cut : parts? path with
  | none =>
      dsimp only
      split <;> exact settled_empty
  | some parts =>
      rw [parts?] at cut
      dsimp only at cut ⊢
      split at cut
      · cases cut
      · cases Option.some.inj cut
        simp only [Option.getD_some, List.reverse_reverse]
        apply settled_parent
        · rw [← List.reverse_suffix, List.reverse_reverse]
          exact ((dropIdle_suffix _).trans (List.dropWhile_suffix _)).trans (dropIdle_suffix _)
        · rw [List.reverse_reverse]
          exact dropIdle_dropIdle _

end Joining

end LiveShader.Files.Path
