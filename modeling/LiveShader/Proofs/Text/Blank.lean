import LiveShader.Proofs.Text.Cut
import LiveShader.Text.Blank

/-!
# Blanks and words

What stands at the front of a text and which words it has does not depend on blanks
at its end, such as the terminator of a line.
-/

namespace LiveShader.Text

variable {text tail lead : List Char}

/-- A text of blanks only. -/
def Blanks (text : List Char) : Prop := ∀ c ∈ text, isBlank c = true

theorem blanks_nil : Blanks [] := fun _ member => nomatch member

theorem Blanks.cons (blanks : Blanks text) {c : Char} (blank : isBlank c = true) :
    Blanks (c :: text) := by
  intro other member
  rcases List.mem_cons.mp member with rfl | later
  · exact blank
  · exact blanks other later

theorem trimStart_eq_nil (blanks : Blanks text) : trimStart text = [] := by
  induction text with
  | nil => rfl
  | cons c text ih =>
      have blank : isBlank c = true := blanks c List.mem_cons_self
      rw [trimStart]
      rw [List.dropWhile_cons_of_pos blank]
      exact ih fun other member => blanks other (List.mem_cons_of_mem c member)

theorem trimStart_append (text : List Char) (blanks : Blanks tail) :
    trimStart (text ++ tail) = trimStart text ++ tail ∨
      trimStart (text ++ tail) = [] ∧ trimStart text = [] := by
  induction text with
  | nil =>
      right
      exact ⟨trimStart_eq_nil blanks, rfl⟩
  | cons c text ih =>
      by_cases blank : isBlank c = true
      · simpa [trimStart, blank] using ih
      · left
        simp [trimStart, blank]

/-! ## Trimming -/

theorem trimStart_append_left (blanks : Blanks lead) (text : List Char) :
    trimStart (lead ++ text) = trimStart text :=
  List.dropWhile_append_of_pos blanks

theorem exists_trimStart (text : List Char) :
    ∃ front, Blanks front ∧ text = front ++ trimStart text := by
  refine ⟨text.takeWhile isBlank, List.all_eq_true.mp List.all_takeWhile, ?_⟩
  exact List.takeWhile_append_dropWhile.symm

theorem exists_trimEnd (text : List Char) :
    ∃ back, Blanks back ∧ text = trimEnd text ++ back := by
  obtain ⟨front, blanks, equal⟩ := exists_trimStart text.reverse
  refine ⟨front.reverse, fun c member => blanks c (List.mem_reverse.mp member), ?_⟩
  rw [← List.reverse_inj, equal, List.reverse_append, List.reverse_reverse, trimEnd,
    List.reverse_reverse, ← trimStart]

/-- Trimming takes blanks off both ends. -/
theorem exists_trim (text : List Char) :
    ∃ front back, Blanks front ∧ Blanks back ∧ text = front ++ (trim text ++ back) := by
  obtain ⟨front, blanks₁, start⟩ := exists_trimStart text
  obtain ⟨back, blanks₂, ending⟩ := exists_trimEnd (trimStart text)
  refine ⟨front, back, blanks₁, blanks₂, ?_⟩
  rw [trim, ← ending]
  exact start

theorem trimEnd_append_right (text : List Char) (blanks : Blanks tail) :
    trimEnd (text ++ tail) = trimEnd text := by
  have reversed : Blanks tail.reverse := fun c member => blanks c (List.mem_reverse.mp member)
  rw [trimEnd, List.reverse_append, ← trimStart, trimStart_append_left reversed]
  rfl

theorem trim_append_right (text : List Char) (blanks : Blanks tail) :
    trim (text ++ tail) = trim text := by
  rw [trim, trim]
  rcases trimStart_append text blanks with kept | ⟨gone, empty⟩
  · rw [kept, trimEnd_append_right _ blanks]
  · rw [gone, empty]

theorem trim_append_left (blanks : Blanks lead) (text : List Char) :
    trim (lead ++ text) = trim text := by
  rw [trim, trimStart_append_left blanks, ← trim]

theorem trim_trim (text : List Char) : trim (trim text) = trim text := by
  obtain ⟨front, back, blanks₁, blanks₂, equal⟩ := exists_trim text
  calc
    trim (trim text) = trim (front ++ (trim text ++ back)) := by
      rw [trim_append_left blanks₁, trim_append_right _ blanks₂]
    _ = trim text := by rw [← equal]

theorem trimStart_trimStart (text : List Char) : trimStart (trimStart text) = trimStart text := by
  obtain ⟨front, blanks, equal⟩ := exists_trimStart text
  calc
    trimStart (trimStart text) = trimStart (front ++ trimStart text) :=
      (trimStart_append_left blanks _).symm
    _ = trimStart text := by rw [← equal]

theorem trimStart_trim (text : List Char) : trimStart (trim text) = trim text := by
  obtain ⟨back, blanks, equal⟩ := exists_trimEnd (trimStart text)
  rcases trimStart_append (trim text) blanks with kept | ⟨_, empty⟩
  · have twice := trimStart_trimStart text
    rw [equal, ← trim, kept] at twice
    exact List.append_cancel_right twice
  · rw [← trim_trim, trim, empty]
    rfl

theorem trim_of_solid (solid : ∀ c ∈ text, isBlank c = false) : trim text = text := by
  have kept : ∀ other : List Char, (∀ c ∈ other, isBlank c = false) → trimStart other = other := by
    intro other solid
    cases other with
    | nil => rfl
    | cons c other =>
        have first : ¬ isBlank c = true := by
          rw [solid c List.mem_cons_self]
          decide
        exact List.dropWhile_cons_of_neg first
  have reversed : ∀ c ∈ text.reverse, isBlank c = false :=
    fun c member => solid c (List.mem_reverse.mp member)
  rw [trim, kept text solid, trimEnd, ← trimStart, kept _ reversed, List.reverse_reverse]

/-- A text between two characters that are not blank has no blanks around it. -/
theorem trim_of_ends {first last : Char} (front : isBlank first = false)
    (back : isBlank last = false) (text : List Char) :
    trim (first :: (text ++ [last])) = first :: (text ++ [last]) := by
  have solid : ∀ {c : Char}, isBlank c = false → ¬ isBlank c = true := fun plain => by simp [plain]
  have reversed : (first :: (text ++ [last])).reverse = last :: (first :: text).reverse := by simp
  rw [trim, trimStart, List.dropWhile_cons_of_neg (solid front), trimEnd, reversed,
    List.dropWhile_cons_of_neg (solid back), ← reversed, List.reverse_reverse]

theorem length_trim_le (text : List Char) : (trim text).length ≤ text.length := by
  obtain ⟨front, back, _, _, equal⟩ := exists_trim text
  have lengths := congrArg List.length equal
  rw [List.length_append, List.length_append] at lengths
  omega

/-! ## Beginnings, pieces and words -/

/-- Blanks at the end do not hide or make what a text begins with. -/
theorem after?_append (solid : ∀ c ∈ lead, isBlank c = false) (blanks : Blanks tail) :
    after? lead (text ++ tail) = (after? lead text).map (· ++ tail) := by
  apply after?_append_of_apart
  intro c first inside
  have blank : isBlank c = true := blanks c (List.mem_of_mem_head? first)
  rw [solid c inside] at blank
  cases blank

theorem pieces_ne_nil (isSeparator : Char → Bool) (text : List Char) :
    pieces isSeparator text ≠ [] := by
  induction text with
  | nil => simp [pieces]
  | cons c text ih =>
      rw [pieces]
      split
      · simp
      · split <;> simp

theorem pieces_cons_of_separator {isSeparator : Char → Bool} {c : Char}
    (separator : isSeparator c = true) :
    pieces isSeparator (c :: text) = [] :: pieces isSeparator text := by
  simp [pieces, separator]

/-- A separator cuts a text into two that are cut on their own. -/
theorem pieces_append_separator {isSeparator : Char → Bool} (text : List Char) {c : Char}
    (separator : isSeparator c = true) (rest : List Char) :
    pieces isSeparator (text ++ c :: rest) =
      pieces isSeparator text ++ pieces isSeparator rest := by
  induction text with
  | nil => exact pieces_cons_of_separator separator
  | cons d text ih =>
      rw [List.cons_append, pieces, pieces, ih]
      split
      · rfl
      · cases cut : pieces isSeparator text with
        | nil => exact absurd cut (pieces_ne_nil isSeparator text)
        | cons piece others => rfl

theorem pieces_of_solid {isSeparator : Char → Bool} (solid : ∀ c ∈ text, isSeparator c = false) :
    pieces isSeparator text = [text] := by
  induction text with
  | nil => rfl
  | cons c text ih =>
      have first : isSeparator c = false := solid c List.mem_cons_self
      have rest := ih fun other member => solid other (List.mem_cons_of_mem c member)
      simp [pieces, first, rest]

/-- A run without separators before a separator is a piece. -/
theorem pieces_append_cons {isSeparator : Char → Bool} {piece : List Char}
    (solid : ∀ c ∈ piece, isSeparator c = false) {c : Char} (separator : isSeparator c = true) :
    pieces isSeparator (piece ++ c :: text) = piece :: pieces isSeparator text := by
  rw [pieces_append_separator piece separator, pieces_of_solid solid]
  rfl

/-- The first piece is the whole text, or a separator stands behind it. -/
theorem pieces_cases {isSeparator : Char → Bool} {piece : List Char} {others : List (List Char)}
    (cut : pieces isSeparator text = piece :: others) :
    (∀ c ∈ piece, isSeparator c = false) ∧ (text = piece ∧ others = [] ∨
      ∃ c rest, text = piece ++ c :: rest ∧ isSeparator c = true ∧
        pieces isSeparator rest = others) := by
  induction text generalizing piece with
  | nil =>
      cases cut
      exact ⟨fun _ member => (List.not_mem_nil member).elim, Or.inl ⟨rfl, rfl⟩⟩
  | cons c text ih =>
      by_cases separator : isSeparator c = true
      · rw [pieces_cons_of_separator separator] at cut
        cases cut
        exact ⟨fun _ member => (List.not_mem_nil member).elim,
          Or.inr ⟨c, text, rfl, separator, rfl⟩⟩
      · rw [pieces, if_neg separator] at cut
        split at cut
        · rename_i none'
          exact absurd none' (pieces_ne_nil isSeparator text)
        · rename_i below
          cases cut
          obtain ⟨solid, shape⟩ := ih below
          constructor
          · intro e member
            rcases List.mem_cons.mp member with rfl | inside
            · exact Bool.eq_false_iff.mpr separator
            · exact solid e inside
          · rcases shape with ⟨rfl, rfl⟩ | ⟨d, rest, rfl, separates, later⟩
            · exact Or.inl ⟨rfl, rfl⟩
            · exact Or.inr ⟨d, rest, rfl, separates, later⟩

/-- A piece has no separator. -/
theorem solid_of_mem_pieces {isSeparator : Char → Bool} {piece : List Char}
    (member : piece ∈ pieces isSeparator text) : ∀ c ∈ piece, isSeparator c = false := by
  generalize cut : pieces isSeparator text = list at member
  induction list generalizing text with
  | nil => cases member
  | cons first others ih =>
      obtain ⟨solid, shape⟩ := pieces_cases cut
      rcases List.mem_cons.mp member with rfl | later
      · exact solid
      · rcases shape with ⟨_, rfl⟩ | ⟨_, rest, _, _, cut⟩
        · cases later
        · exact ih cut later

/-- A run without blanks before a blank is a word. -/
theorem words_append_cons {word : List Char} (solid : ∀ c ∈ word, isBlank c = false)
    (full : word ≠ []) {c : Char} (blank : isBlank c = true) :
    words (word ++ c :: text) = word :: words text := by
  simp only [words]
  rw [pieces_append_cons solid blank, List.filter_cons_of_pos]
  simpa using full

theorem words_cons_of_blank {c : Char} (blank : isBlank c = true) :
    words (c :: text) = words text := by
  simp only [words]
  rw [pieces_cons_of_separator blank]
  simp

theorem pieces_blanks (blanks : Blanks text) : ∀ piece ∈ pieces isBlank text, piece = [] := by
  induction text with
  | nil => simp [pieces]
  | cons c text ih =>
      have blank : isBlank c = true := blanks c List.mem_cons_self
      rw [pieces_cons_of_separator blank]
      intro piece member
      rcases List.mem_cons.mp member with rfl | old
      · rfl
      · exact ih (fun other present => blanks other (List.mem_cons_of_mem c present)) piece old

/-- Blanks at the end only add empty pieces. -/
theorem pieces_append (text : List Char) (blanks : Blanks tail) :
    ∃ more, pieces isBlank (text ++ tail) = pieces isBlank text ++ more ∧
      ∀ piece ∈ more, piece = [] := by
  induction text with
  | nil =>
      have empty := pieces_blanks blanks
      cases pieced : pieces isBlank tail with
      | nil => exact absurd pieced (pieces_ne_nil isBlank tail)
      | cons first rest =>
          rw [pieced] at empty
          refine ⟨rest, ?_, fun piece member => empty piece (List.mem_cons_of_mem first member)⟩
          rw [List.nil_append, pieced, empty first List.mem_cons_self]
          rfl
  | cons c text ih =>
      rcases ih with ⟨more, cut, empty⟩
      refine ⟨more, ?_, empty⟩
      by_cases blank : isBlank c = true
      · rw [List.cons_append, pieces_cons_of_separator blank, cut,
          pieces_cons_of_separator blank]
        rfl
      · cases pieced : pieces isBlank text with
        | nil => exact absurd pieced (pieces_ne_nil isBlank text)
        | cons first rest => simp [pieces, blank, cut, pieced]

theorem words_append (text : List Char) (blanks : Blanks tail) :
    words (text ++ tail) = words text := by
  obtain ⟨more, cut, empty⟩ := pieces_append text blanks
  simp only [words]
  have ignored : more.filter (fun word => !word.isEmpty) = [] := by
    rw [List.filter_eq_nil_iff]
    intro piece member
    simp [empty piece member]
  rw [cut, List.filter_append, ignored, List.append_nil]

end LiveShader.Text
