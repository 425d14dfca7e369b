import LiveShader.Proofs.Source.Shade

/-!
# What becomes of the code of a line

Every line of a source has a line of its own in the translated text.  Its code is dropped
for its first word, gathered into the block, kept, or kept behind the place of an output.
Which of these it is depends on the code of the line, on the braces that are open before
it and on whether it begins inside a block comment.
-/

namespace LiveShader.Source

open LiveShader.Text

namespace Comment

/-- The code on a line of a text, counted from zero. -/
def codeLine (text : List Char) (index : Nat) : List Char := (codeLines text).getD index []

/-- The tokens on the lines before a line. -/
def codeBefore (text : List Char) (index : Nat) : List Token :=
  ((codeLines text).take index).flatMap tokens

end Comment

open Comment

/-- The code that a translated text has for a line of the source. -/
def Translation.codeLine (translation : Translation) (index : Nat) : List Char :=
  Comment.codeLine translation.text (translation.preamble.length + index)

/-- Code that a scan drops for its first word, at any depth. -/
def isSpoken (code : List Char) : Bool := isVersion code || isPrecision code

/--
What becomes of the code of a line with some braces open before it, which begins inside a
block comment or not.
-/
inductive Fate (depth : Int) (isInside : Prop) (layout : Uniform.Layout) (code : List Char) :
    List Char → Prop where
  | dropped (spoken : isSpoken code = true) : Fate depth isInside layout code []
  | gathered (silent : isSpoken code = false) (top : depth = 0) {declaration : Declaration}
      (tidy : Tidy declaration code)
      (held : ∀ name ∈ declaration.names, ∃ offset,
        layout.slot? name = some ⟨offset, declaration.type⟩) : Fate depth isInside layout code []
  | placed (silent : isSpoken code = false) (top : depth = 0) (outside : ¬ isInside)
      (output : isOutput code = true) {gap : List Char} (blanks : Blanks gap) :
      Fate depth isInside layout code (outputPlace ++ (gap ++ code))
  | kept (silent : isSpoken code = false)
      (unplaced : depth = 0 → isOutput code = true → isInside) :
      Fate depth isInside layout code code

namespace Scan

variable {scan : Scan} {texts : List (List Char)} {text line : List Char} {index : Nat}

/-! ## The line at a place -/

theorem carried_lines (scan : Scan) (texts : List (List Char)) :
    (scan.lines texts).2.isOpen = openAfter scan.isOpen texts ∧
      (scan.lines texts).2.depth =
        scan.depth + rise ((codes scan.isOpen texts).flatMap tokens) := by
  induction texts generalizing scan with
  | nil => exact ⟨rfl, (Int.add_zero _).symm⟩
  | cons text rest ih =>
      rcases read : scan.line text with ⟨rewrite, after⟩
      obtain ⟨isOpen, depth⟩ := carried_line read
      obtain ⟨isOpen', depth'⟩ := ih after
      have last : (scan.lines (text :: rest)).2 = (after.lines rest).2 := by rw [lines, read]
      rw [last, isOpen', depth', isOpen, depth, ← rise_tokens]
      rw [codes, List.flatMap_cons, rise_append, Int.add_assoc]
      exact ⟨rfl, rfl⟩

theorem getElem?_lines (scan : Scan) (texts : List (List Char)) (index : Nat) :
    (scan.lines texts).1[index]? = texts[index]?.map fun text =>
      ((scan.lines (texts.take index)).2.line text).1.apply text := by
  induction texts generalizing scan index with
  | nil => rfl
  | cons text rest ih =>
      cases index with
      | zero => rfl
      | succ index => exact ih _ index

/-- What a line leaves behind is there at the end. -/
theorem extends_of_line (scan : Scan) (there : texts[index]? = some line) :
    ((scan.lines (texts.take index)).2.line line).2.Extends (scan.lines texts).2 := by
  induction texts generalizing scan index with
  | nil => cases there
  | cons text rest ih =>
      cases index with
      | zero =>
          cases there
          exact extends_lines _ rest
      | succ index => exact ih _ there

/-! ## The code of the line -/

theorem dropped_code (scan : Scan) (text : List Char) :
    trim (strip scan.isOpen (scan.edgesOf text)).code = [] := by
  obtain ⟨code, blanks, stripped⟩ :=
    strip_edges scan.isOpen (strip scan.isOpen text).isOpen
  rw [edgesOf, stripped, trim, trimStart_eq_nil blanks]
  rfl

/-- Outside comments the place of an output stands in front of the code. -/
theorem placed_code (output : isOutput (trim (strip false text).code) = true) :
    ∃ gap, Blanks gap ∧ trim (strip false (outputPlace ++ trimStart text)).code =
      outputPlace ++ (gap ++ trim (strip false text).code) := by
  obtain ⟨lead, blanks, before, behind⟩ := strip_led text
  rw [before] at output ⊢
  rw [behind]
  dsimp only at output ⊢
  rw [trim_append_left blanks] at output ⊢
  generalize (strip false (trimStart text)).code = code at output ⊢
  obtain ⟨front, back, blanks₁, blanks₂, around⟩ := exists_trim code
  obtain ⟨stem, ends⟩ := endsWith_iff.mp (Bool.and_eq_true_iff.mp output).2
  have first : ∃ tail, outputPlace = 'l' :: tail := ⟨_, rfl⟩
  obtain ⟨tail, spelled⟩ := first
  have shape : outputPlace ++ (front ++ trim code) =
      'l' :: ((tail ++ (front ++ stem)) ++ [';']) := by
    rw [spelled, ends]
    simp
  refine ⟨front, blanks₁, ?_⟩
  calc
    trim (outputPlace ++ code) = trim ((outputPlace ++ (front ++ trim code)) ++ back) := by
      rw [List.append_assoc, List.append_assoc, ← around]
    _ = trim (outputPlace ++ (front ++ trim code)) := trim_append_right _ blanks₂
    _ = outputPlace ++ (front ++ trim code) := by
      rw [shape]
      exact trim_of_ends rfl rfl _

theorem fate_of_step {rewrite : Rewrite} {after : Scan} {layout : Uniform.Layout}
    (step : Step scan text rewrite after) (clean : after.fault = none)
    (kept : ∀ name slot, after.layout.slot? name = some slot → layout.slot? name = some slot) :
    Fate scan.depth (scan.isOpen = true) layout (scan.codeOf text)
      (trim (strip scan.isOpen (rewrite.apply text)).code) := by
  cases step with
  | directive spoken =>
      have left := scan.dropped_code text
      rw [Rewrite.apply, left]
      exact .dropped spoken
  | inner silent deep => exact .kept silent fun top => absurd top deep
  | gathered silent top declared =>
      obtain ⟨spaced, declaration, typed, named, alone⟩ :=
        (Declaration.uniforms?_eq_some_iff (trim_trim _)).mp declared
      have left := scan.dropped_code text
      rw [Rewrite.apply, left]
      refine .gathered silent top ⟨alone, spaced⟩ ?_
      intro name member
      rw [named] at member
      rw [typed]
      obtain ⟨offset, found⟩ := slot?_addUniforms clean name member
      exact ⟨offset, kept name _ found⟩
  | output silent top undeclared placed =>
      rw [Rewrite.apply]
      rw [codeOf] at silent placed ⊢
      cases isOpen : scan.isOpen with
      | false =>
          rw [isOpen] at silent placed
          obtain ⟨gap, blanks, equal⟩ := placed_code placed
          rw [equal]
          exact .placed silent top Bool.false_ne_true placed blanks
      | true =>
          rw [isOpen] at silent
          rw [strip_covered]
          exact .kept silent fun _ _ => rfl
  | kept silent top undeclared unplaced =>
      refine .kept silent fun _ output => ?_
      rw [unplaced] at output
      cases output

end Scan

/-! ## The line in the translated text -/

variable {source : List Char} {translation : Translation} {index : Nat}

theorem codeLines_getD (text : List Char) {line : List Char}
    (there : (lines text)[index]? = some line) :
    Comment.codeLine text index =
        trim (strip (openAfter false ((lines text).take index)) line).code ∧
      codeBefore text index = (codes false ((lines text).take index)).flatMap tokens := by
  obtain ⟨last, _, equal⟩ := codeLines_eq text
  have inside : index < (codes false (lines text)).length := by
    rw [length_codes]
    exact (List.getElem?_eq_some_iff.mp there).1
  constructor
  · rw [Comment.codeLine, equal, List.getD_eq_getElem?_getD, List.getElem?_append_left inside,
      getElem?_codes, there]
    rfl
  · rw [codeBefore, equal, List.take_append_of_le_length (Nat.le_of_lt inside), take_codes]

theorem Translation.codeLine_eq (made : translateFragment source = .ok translation)
    {line : List Char} (there : translation.body[index]? = some line) :
    translation.codeLine index =
      trim (strip (openAfter false (translation.body.take index)) line).code := by
  have inside : index < (codes false translation.body).length := by
    rw [length_codes]
    exact (List.getElem?_eq_some_iff.mp there).1
  have front : (translation.preamble.map trim).length = translation.preamble.length :=
    List.length_map _
  rw [Translation.codeLine, Comment.codeLine, codeLines_text made, List.getD_eq_getElem?_getD,
    List.getElem?_append_right (by omega), front, Nat.add_sub_cancel_left,
    List.getElem?_append_left inside, getElem?_codes, there]
  rfl

/-- What becomes of the code of a line of a source that is translated. -/
theorem fate_of_line (made : translateFragment source = .ok translation)
    (inside : index < (lines source).length) :
    Fate (rise (codeBefore source index)) (EndsInside (firstLines source index))
      translation.layout (Comment.codeLine source index) (translation.codeLine index) := by
  obtain ⟨clean, body, layout⟩ : (Scan.start.lines (lines source)).2.fault = none ∧
      translation.body = (Scan.start.lines (lines source)).1 ∧
      translation.layout = (Scan.start.lines (lines source)).2.layout := by
    obtain ⟨_, _, clean, rfl⟩ := translateFragment_cases made
    exact ⟨clean, rfl, rfl⟩
  obtain ⟨line, there⟩ : ∃ line, (lines source)[index]? = some line :=
    ⟨_, List.getElem?_eq_getElem inside⟩
  have left := Scan.start.getElem?_lines (lines source) index
  have extended := Scan.start.extends_of_line there
  obtain ⟨isOpen, depth⟩ := Scan.start.carried_lines ((lines source).take index)
  have same := (rendering_lines Scan.start (lines source)).openAfter_take index
  obtain ⟨code, before⟩ := codeLines_getD source there
  rw [there, ← body] at left
  rw [← body] at same
  -- the scan that reads the line is all that matters of the lines before it
  generalize (Scan.start.lines ((lines source).take index)).2 = scan at left extended isOpen depth
  have isInside : EndsInside (firstLines source index) = (scan.isOpen = true) := by
    rw [isOpen]
    exact propext (endsInside_firstLines_iff source index)
  have before' : rise (codeBefore source index) = scan.depth := by
    rw [before, depth]
    exact (Int.zero_add _).symm
  have code' : Comment.codeLine source index = scan.codeOf line := by
    rw [code, Scan.codeOf, isOpen]
    rfl
  have codeLeft : translation.codeLine index =
      trim (strip scan.isOpen ((scan.line line).1.apply line)).code := by
    rw [Translation.codeLine_eq made left, isOpen, ← same]
    rfl
  rw [isInside, before', code', codeLeft, layout]
  exact Scan.fate_of_step (Scan.step_of_line rfl) (extended.clean clean) extended.slots

end LiveShader.Source
