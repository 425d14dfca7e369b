import LiveShader.Proofs.Fragment.Expansion

/-!
# The lines that an expansion comes to

An expansion reads the lines of its files in one sequence.  Every file stands in this
sequence with all its lines, in their order, and directly behind the first line that
includes it: up to the next line of an older file there are only its own lines and those
of files that were entered from it.
-/

namespace LiveShader.Fragment

open LiveShader.Files LiveShader.Text

/-- A line that an expansion comes to, with the number of its file and its number there. -/
structure Visit where
  file : Nat
  number : Nat
  line : List Char
  deriving DecidableEq

namespace Visit

/-- The lines of a file, numbered from `number` on. -/
def ofLines (file number : Nat) (lines : List (List Char)) : List Visit :=
  (lines.zipIdx number).map fun (line, number) => ⟨file, number, line⟩

/-- The visits to one file. -/
def ofFile (file : Nat) (visits : List Visit) : List Visit :=
  visits.filter fun visit => visit.file = file

/-- Whether the line includes no file. -/
def isKept (visit : Visit) : Bool := (includedFile? visit.line).isNone

section OfFile

variable {file : Nat} {first second : List Visit}

theorem ofLines_cons (file number : Nat) (line : List Char) (rest : List (List Char)) :
    ofLines file number (line :: rest) = ⟨file, number, line⟩ :: ofLines file (number + 1) rest :=
  rfl

theorem ofFile_append : ofFile file (first ++ second) = ofFile file first ++ ofFile file second :=
  List.filter_append first second

theorem ofFile_cons_self (number : Nat) (line : List Char) :
    ofFile file (⟨file, number, line⟩ :: first) = ⟨file, number, line⟩ :: ofFile file first := by
  simp [ofFile]

theorem ofFile_cons_other {visit : Visit} (other : visit.file ≠ file) :
    ofFile file (visit :: first) = ofFile file first := by
  simp [ofFile, other]

theorem ofFile_eq_nil (elsewhere : ∀ visit ∈ first, visit.file ≠ file) :
    ofFile file first = [] := by
  rw [ofFile]
  rw [List.filter_eq_nil_iff]
  intro visit member
  simpa using elsewhere visit member

end OfFile

end Visit

namespace Expansion

/--
The lines in the order in which they are come to, given the number of the file, of the
next file to be entered, and of the first line.
-/
def visits (file : Nat) : Nat → Nat → Expansion → List Visit
  | _, _, done => []
  | next, number, keep line rest => ⟨file, number, line⟩ :: rest.visits file next (number + 1)
  | next, number, skip line rest => ⟨file, number, line⟩ :: rest.visits file next (number + 1)
  | next, number, enter line _ inside rest =>
      ⟨file, number, line⟩ ::
        (inside.visits next (next + 1) 1 ++
          rest.visits file (next + 1 + inside.entered.length) (number + 1))

section Files

variable {file next number : Nat} {tree : Expansion}

theorem file_of_visit {visit : Visit} (member : visit ∈ tree.visits file next number) :
    visit.file = file ∨ next ≤ visit.file ∧ visit.file < next + tree.entered.length := by
  induction tree generalizing file next number with
  | done => cases member
  | keep line rest ih =>
      rcases List.mem_cons.mp member with rfl | later
      · exact Or.inl rfl
      · exact ih later
  | skip line rest ih =>
      rcases List.mem_cons.mp member with rfl | later
      · exact Or.inl rfl
      · exact ih later
  | enter line name inside rest inner outer =>
      simp only [entered, List.length_cons, List.length_append]
      rcases List.mem_cons.mp member with rfl | below
      · exact Or.inl rfl
      · rcases List.mem_append.mp below with within | later
        · rcases inner within with same | ⟨low, high⟩
          · right
            omega
          · right
            omega
        · rcases outer later with same | ⟨low, high⟩
          · exact Or.inl same
          · right
            omega

/-- No line of an expansion belongs to a file that is neither its own nor entered in it. -/
theorem ne_of_outside {other : Nat} (differs : other ≠ file)
    (outside : other < next ∨ next + tree.entered.length ≤ other) :
    ∀ visit ∈ tree.visits file next number, visit.file ≠ other := by
  intro visit member
  rcases file_of_visit member with same | ⟨low, high⟩
  · omega
  · omega

/-- The file itself is read from end to end. -/
theorem ofFile_own (older : file < next) :
    Visit.ofFile file (tree.visits file next number) = Visit.ofLines file number tree.sources := by
  induction tree generalizing next number with
  | done => rfl
  | keep line rest ih => rw [visits, sources, Visit.ofFile_cons_self, Visit.ofLines_cons, ih older]
  | skip line rest ih => rw [visits, sources, Visit.ofFile_cons_self, Visit.ofLines_cons, ih older]
  | enter line name inside rest inner outer =>
      have elsewhere : Visit.ofFile file (inside.visits next (next + 1) 1) = [] :=
        Visit.ofFile_eq_nil (ne_of_outside (by omega) (by omega))
      rw [visits, sources, Visit.ofFile_cons_self, Visit.ofLines_cons, Visit.ofFile_append,
        elsewhere, outer (by omega)]
      rfl

end Files

/-- An entered file is the one that a line includes, or one entered in it, or one behind it. -/
theorem entered_cases {line : List Char} {name other : String} {inside rest : Expansion}
    {index : Nat} (found : (enter line other inside rest).entered[index]? = some name) :
    (index = 0 ∧ name = other) ∨
      (∃ earlier, index = earlier + 1 ∧ earlier < inside.entered.length ∧
        inside.entered[earlier]? = some name) ∨
      ∃ later, index = inside.entered.length + later + 1 ∧ rest.entered[later]? = some name := by
  rcases index with _ | index
  · cases Option.some.inj found
    exact Or.inl ⟨rfl, rfl⟩
  · right
    rw [entered, List.getElem?_cons_succ] at found
    by_cases within : index < inside.entered.length
    · rw [List.getElem?_append_left within] at found
      exact Or.inl ⟨index, rfl, within, found⟩
    · have beyond : inside.entered.length ≤ index := Nat.le_of_not_lt within
      rw [List.getElem?_append_right beyond] at found
      exact Or.inr ⟨_, by omega, found⟩

section Follows

variable {read : ReadText} {directory : Path} {met : List String} {tree : Expansion}

/-- Every file that is entered is one of the directory, and is read from end to end. -/
theorem ofFile_entered (follows : tree.Follows read directory met) {file next : Nat}
    (older : file < next) (number : Nat) {index : Nat} {name : String}
    (found : tree.entered[index]? = some name) :
    ∃ text, read (Path.join directory name) = .ok text ∧
      Visit.ofFile (next + index) (tree.visits file next number) =
        Visit.ofLines (next + index) 1 (terminatedLines text.toList) := by
  induction tree generalizing met file next number index with
  | done => cases found
  | keep line rest ih =>
      obtain ⟨text, readable, equal⟩ := ih follows.2 older (number + 1) found
      refine ⟨text, readable, ?_⟩
      rw [visits, Visit.ofFile_cons_other (by dsimp only; omega), equal]
  | skip line rest ih =>
      obtain ⟨text, readable, equal⟩ := ih follows.2 older (number + 1) found
      refine ⟨text, readable, ?_⟩
      rw [visits, Visit.ofFile_cons_other (by dsimp only; omega), equal]
  | enter line other inside rest inner outer =>
      rcases follows with ⟨_, _, ⟨content, readable, contentLines⟩, followsInside, followsRest⟩
      rw [visits, Visit.ofFile_cons_other (by dsimp only; omega), Visit.ofFile_append]
      obtain ⟨rfl, rfl⟩ | ⟨earlier, rfl, within, foundInside⟩ | ⟨later, rfl, foundBehind⟩ :=
        entered_cases found
      · have elsewhere : Visit.ofFile (next + 0)
            (rest.visits file (next + 1 + inside.entered.length) (number + 1)) = [] :=
          Visit.ofFile_eq_nil (ne_of_outside (by omega) (by omega))
        refine ⟨content, readable, ?_⟩
        rw [elsewhere, List.append_nil, ← contentLines]
        exact ofFile_own (Nat.lt_succ_self next)
      · obtain ⟨text, readable, equal⟩ := inner followsInside (Nat.lt_succ_self next) 1 foundInside
        have elsewhere : Visit.ofFile (next + (earlier + 1))
            (rest.visits file (next + 1 + inside.entered.length) (number + 1)) = [] :=
          Visit.ofFile_eq_nil (ne_of_outside (by omega) (by omega))
        have position : next + (earlier + 1) = next + 1 + earlier := by omega
        refine ⟨text, readable, ?_⟩
        rw [elsewhere, List.append_nil, position, equal]
      · have younger : file < next + 1 + inside.entered.length := by omega
        obtain ⟨text, readable, equal⟩ := outer followsRest younger (number + 1) foundBehind
        have elsewhere : Visit.ofFile (next + (inside.entered.length + later + 1))
            (inside.visits next (next + 1) 1) = [] :=
          Visit.ofFile_eq_nil (ne_of_outside (by omega) (by omega))
        have position : next + (inside.entered.length + later + 1) =
            next + 1 + inside.entered.length + later := by
          omega
        refine ⟨text, readable, ?_⟩
        rw [elsewhere, List.nil_append, position, equal]

/-! ## Where a file stands -/

/-- A file that a line includes was met before, or it is entered. -/
theorem included_of_visit (follows : tree.Follows read directory met) {file next number : Nat}
    {visit : Visit} (member : visit ∈ tree.visits file next number) {name : String}
    (included : includedFile? visit.line = some name) : name ∈ met ++ tree.entered := by
  induction tree generalizing met file next number with
  | done => cases member
  | keep line rest ih =>
      rcases List.mem_cons.mp member with rfl | later
      · rw [follows.1] at included
        cases included
      · exact ih follows.2 later
  | skip line rest ih =>
      rcases follows with ⟨⟨other, known, names⟩, follows⟩
      rcases List.mem_cons.mp member with rfl | later
      · rw [names] at included
        cases included
        exact List.mem_append_left _ known
      · exact ih follows later
  | enter line other inside rest inner outer =>
      rcases follows with ⟨names, _, _, followsInside, followsRest⟩
      have whole : met ++ entered (.enter line other inside rest) =
          (met ++ other :: inside.entered) ++ rest.entered := by simp [entered]
      rw [whole]
      rcases List.mem_cons.mp member with rfl | below
      · rw [names] at included
        cases included
        simp
      · rcases List.mem_append.mp below with within | later
        · have found := inner followsInside within
          rw [List.append_assoc, List.singleton_append] at found
          exact List.mem_append_left _ found
        · exact outer followsRest later

end Follows

end Expansion

/--
A file stands behind the first line that includes it.  The line belongs to an older file;
directly behind it come the lines of the file, with none but those of younger files among
them, and there are no others of the file.
-/
def StandsAtFirstInclude (file : Nat) (name : String) (visits : List Visit) : Prop :=
  ∃ before including within after,
    visits = before ++ including :: (within ++ after) ∧
      includedFile? including.line = some name ∧ including.file < file ∧
      (∀ visit ∈ before, includedFile? visit.line ≠ some name) ∧
      (∀ visit ∈ within, file ≤ visit.file) ∧
      ∀ visit ∈ before ++ after, visit.file ≠ file

namespace StandsAtFirstInclude

variable {file : Nat} {name : String} {visits : List Visit}

/-- More lines in front, and more behind. -/
theorem append (stands : StandsAtFirstInclude file name visits) (front back : List Visit)
    (unnamed : ∀ visit ∈ front, includedFile? visit.line ≠ some name)
    (elsewhere : ∀ visit ∈ front ++ back, visit.file ≠ file) :
    StandsAtFirstInclude file name (front ++ visits ++ back) := by
  obtain ⟨before, including, within, after, rfl, names, older, first, younger, others⟩ := stands
  refine ⟨front ++ before, including, within, after ++ back, by simp, names, older, ?_, younger,
    ?_⟩
  · intro visit member
    rcases List.mem_append.mp member with new | old
    · exact unnamed visit new
    · exact first visit old
  · intro visit member
    simp only [List.mem_append] at member others elsewhere
    rcases member with (new | old) | (old | new)
    · exact elsewhere visit (Or.inl new)
    · exact others visit (Or.inl old)
    · exact others visit (Or.inr old)
    · exact elsewhere visit (Or.inr new)

theorem cons (stands : StandsAtFirstInclude file name visits) {visit : Visit}
    (unnamed : includedFile? visit.line ≠ some name) (elsewhere : visit.file ≠ file) :
    StandsAtFirstInclude file name (visit :: visits) := by
  have longer := stands.append [visit] [] (by simpa using unnamed) (by simpa using elsewhere)
  simpa using longer

end StandsAtFirstInclude

namespace Expansion

variable {read : ReadText} {directory : Path} {met : List String} {tree : Expansion}

/-- An included file stands behind the line that includes it. -/
theorem stands_included {line : List Char} {name : String}
    (names : includedFile? line = some name) {file next : Nat} (older : file < next) (number : Nat)
    (inside rest : Expansion) :
    StandsAtFirstInclude next name ((enter line name inside rest).visits file next number) := by
  refine ⟨[], ⟨file, number, line⟩, inside.visits next (next + 1) 1,
    rest.visits file (next + 1 + inside.entered.length) (number + 1), rfl, names, older, by simp,
    ?_, ?_⟩
  · intro visit member
    rcases file_of_visit member with same | ⟨low, _⟩
    · omega
    · omega
  · rw [List.nil_append]
    exact ne_of_outside (by omega) (by omega)

/-- Every file that is entered stands behind the first line that includes it. -/
theorem stands_entered (follows : tree.Follows read directory met) (distinct : met.Nodup)
    {file next : Nat} (older : file < next) (number : Nat) {index : Nat} {name : String}
    (found : tree.entered[index]? = some name) :
    StandsAtFirstInclude (next + index) name (tree.visits file next number) := by
  have apart := follows.nodup distinct
  induction tree generalizing met file next number index with
  | done => cases found
  | keep line rest ih =>
      refine (ih follows.2 distinct older (number + 1) found apart).cons ?_ (by dsimp only; omega)
      rw [follows.1]
      exact fun impossible => nomatch impossible
  | skip line rest ih =>
      rcases follows with ⟨⟨other, known, names⟩, follows⟩
      refine (ih follows distinct older (number + 1) found apart).cons ?_ (by dsimp only; omega)
      rw [names]
      rintro ⟨⟩
      exact (List.nodup_append.mp apart).2.2 name known name (List.mem_of_getElem? found) rfl
  | enter line other inside rest inner outer =>
      rcases follows with ⟨names, new, _, followsInside, followsRest⟩
      have whole : met ++ entered (.enter line other inside rest) =
          (met ++ other :: inside.entered) ++ rest.entered := by simp [entered]
      rw [whole] at apart
      have apartInside : (met ++ other :: inside.entered).Nodup := (List.nodup_append.mp apart).1
      obtain ⟨rfl, rfl⟩ | ⟨earlier, rfl, within, foundInside⟩ | ⟨later, rfl, foundBehind⟩ :=
        entered_cases found
      · exact stands_included names older number inside rest
      · have position : next + (earlier + 1) = next + 1 + earlier := by omega
        -- The line in front names another file, since no file is entered twice.
        have differs : other ≠ name := by
          rintro rfl
          exact (List.nodup_cons.mp (List.nodup_append.mp apartInside).2.1).1
            (List.mem_of_getElem? foundInside)
        have stands := inner followsInside (nodup_concat distinct new) (Nat.lt_succ_self next) 1
          foundInside (by simpa using apartInside)
        rw [position]
        refine stands.append [⟨file, number, line⟩]
          (rest.visits file (next + 1 + inside.entered.length) (number + 1))
          (by simpa [names] using differs) ?_
        intro visit located
        rcases List.mem_cons.mp located with rfl | behind
        · dsimp only
          omega
        · exact ne_of_outside (by omega) (by omega) visit behind
      · have position : next + (inside.entered.length + later + 1) =
            next + 1 + inside.entered.length + later := by
          omega
        -- No line in front names the file: what they name has been met before.
        have unnamed : name ∉ met ++ other :: inside.entered := fun early =>
          (List.nodup_append.mp apart).2.2 name early name (List.mem_of_getElem? foundBehind) rfl
        have younger : file < next + 1 + inside.entered.length := by omega
        have stands := outer followsRest apartInside younger (number + 1) foundBehind apart
        have behind := stands.append
          (⟨file, number, line⟩ :: inside.visits next (next + 1) 1) [] ?_ ?_
        · rw [position]
          simpa [visits] using behind
        · intro visit located included
          apply unnamed
          rcases List.mem_cons.mp located with rfl | inFront
          · rw [names] at included
            cases included
            simp
          · simpa using included_of_visit followsInside inFront included
        · rw [List.append_nil]
          intro visit located
          rcases List.mem_cons.mp located with rfl | inFront
          · dsimp only
            omega
          · exact ne_of_outside (by omega) (by omega) visit inFront

end Expansion

end LiveShader.Fragment
