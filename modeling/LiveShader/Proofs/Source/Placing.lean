import LiveShader.Proofs.Source.Fate

/-!
# Which outputs are placed

The place of an output is put in front of a line at the top level whose code begins with
`out` and a space and ends with a semicolon, unless the line begins inside a comment,
which then takes it in.  Parentheses are not looked at.  So the place stands in front of
the output declarations and nowhere else exactly if all of them are plain and no other
line looks like one.
-/

namespace LiveShader.Source

open LiveShader.Text Comment

/-- Opening parentheses less closing ones. -/
def parentheses : List Token → Int
  | [] => 0
  | token :: others =>
      (if token = .mark '(' then 1 else if token = .mark ')' then -1 else 0) + parentheses others

/-- Whether a semicolon stands among tokens outside of all braces, `depth` of them open before. -/
def endsAmong (depth : Int) : List Token → Bool
  | [] => false
  | token :: others =>
      (token == .mark ';' && depth == 0) || endsAmong (depth + token.rise) others

/--
The code of a line begins with an output declaration, outside of all braces and
parentheses, and the declaration ends on the line.
-/
def DeclaresOutput (source : List Char) (index : Nat) : Prop :=
  (tokens (Comment.codeLine source index)).head? = some (.word "out".toList) ∧
    rise (codeBefore source index) = 0 ∧ parentheses (codeBefore source index) = 0 ∧
      endsAmong 0 (tokens (Comment.codeLine source index)) = true

instance (source : List Char) (index : Nat) : Decidable (DeclaresOutput source index) :=
  inferInstanceAs (Decidable (_ ∧ _ ∧ _ ∧ _))

/-- A line at the top level that begins outside of comments looks like an output. -/
def LooksLikeOutput (source : List Char) (index : Nat) : Prop :=
  rise (codeBefore source index) = 0 ∧ ¬ EndsInside (firstLines source index) ∧
    isOutput (Comment.codeLine source index) = true

instance (source : List Char) (index : Nat) : Decidable (LooksLikeOutput source index) :=
  inferInstanceAs (Decidable (_ ∧ _ ∧ _))

namespace Translation

/-- In the code of a line, a translation has the place of an output in front. -/
def Places (translation : Translation) (source : List Char) (index : Nat) : Prop :=
  ∃ gap, Blanks gap ∧
    translation.codeLine index = outputPlace ++ (gap ++ Comment.codeLine source index)

/--
A translation puts the place of an output in front of the output declarations that begin
and end on a line, and nowhere else.
-/
structure PlacesOutputs (translation : Translation) (source : List Char) : Prop where
  exactly : ∀ index < (lines source).length,
    translation.Places source index ↔ DeclaresOutput source index
  elsewhere : ∀ index < (lines source).length, ¬ translation.Places source index →
    translation.codeLine index = Comment.codeLine source index ∨ translation.codeLine index = []

end Translation

/-- All output declarations look like one, and nothing else does. -/
structure OutputsArePlain (source : List Char) : Prop where
  declared : ∀ index < (lines source).length, DeclaresOutput source index →
    ¬ EndsInside (firstLines source index) ∧ isOutput (Comment.codeLine source index) = true
  others : ∀ index < (lines source).length, LooksLikeOutput source index →
    parentheses (codeBefore source index) = 0 ∧
      endsAmong 0 (tokens (Comment.codeLine source index)) = true

variable {code gap : List Char} {source : List Char} {translation : Translation} {index : Nat}

/-! ## Outputs and other lines -/

theorem exists_of_isOutput (output : isOutput code = true) :
    ∃ tail, code = "out".toList ++ ' ' :: tail := by
  obtain ⟨tail, begins⟩ :=
    Option.isSome_iff_exists.mp (Bool.and_eq_true_iff.mp output).1
  refine ⟨tail, ?_⟩
  rw [after?_eq_some_iff.mp begins]
  rfl

theorem head?_tokens_of_isOutput (output : isOutput code = true) :
    (tokens code).head? = some (.word "out".toList) := by
  obtain ⟨tail, rfl⟩ := exists_of_isOutput output
  have named : ∀ c ∈ "out".toList, isNameChar c = true := List.all_eq_true.mp (by decide)
  rw [tokens_word _ (by decide) named rfl]
  rfl

theorem isSpoken_of_isOutput (output : isOutput code = true) : isSpoken code = false := by
  obtain ⟨tail, rfl⟩ := exists_of_isOutput output
  rfl

theorem isOutput_of_tidy {declaration : Declaration} (tidy : Tidy declaration code) :
    isOutput code = false := by
  rw [Bool.eq_false_iff]
  intro output
  have head := head?_tokens_of_isOutput output
  rw [tidy.alone, Declaration.spelling] at head
  exact absurd (Option.some.inj head) (by decide)

theorem placed_ne_code : outputPlace ++ (gap ++ code) ≠ code := by
  intro equal
  have lengths := congrArg List.length equal
  have full : 0 < outputPlace.length := by decide
  simp only [List.length_append] at lengths
  omega

/-! ## Lines with the place in front -/

/-- The place of an output is put in front of what looks like one. -/
theorem places_iff (made : translateFragment source = .ok translation)
    (inside : index < (lines source).length) :
    translation.Places source index ↔ LooksLikeOutput source index := by
  have fate := fate_of_line made inside
  rw [Translation.Places, LooksLikeOutput]
  generalize translation.codeLine index = after at fate
  cases fate with
  | dropped spoken =>
      constructor
      · rintro ⟨gap, _, equal⟩
        cases equal
      · rintro ⟨_, _, output⟩
        rw [isSpoken_of_isOutput output] at spoken
        cases spoken
  | gathered silent top tidy held =>
      constructor
      · rintro ⟨gap, _, equal⟩
        cases equal
      · rintro ⟨_, _, output⟩
        rw [isOutput_of_tidy tidy] at output
        cases output
  | placed silent top outside output blanks =>
      constructor
      · intro _
        exact ⟨top, outside, output⟩
      · intro _
        exact ⟨_, blanks, rfl⟩
  | kept silent unplaced =>
      constructor
      · rintro ⟨gap, _, equal⟩
        exact absurd equal.symm placed_ne_code
      · rintro ⟨top, outside, output⟩
        exact absurd (unplaced top output) outside

theorem unplaced_code (made : translateFragment source = .ok translation)
    (inside : index < (lines source).length) (unplaced : ¬ translation.Places source index) :
    translation.codeLine index = Comment.codeLine source index ∨
      translation.codeLine index = [] := by
  have fate := fate_of_line made inside
  rw [Translation.Places] at unplaced
  generalize translation.codeLine index = after at fate unplaced
  cases fate with
  | dropped spoken => exact Or.inr rfl
  | gathered silent top tidy held => exact Or.inr rfl
  | placed silent top outside output blanks => exact absurd ⟨_, blanks, rfl⟩ unplaced
  | kept silent unplaced => exact Or.inl rfl

/--
The place of an output is put in front of the output declarations and nowhere else exactly
if each of them begins outside of comments, with `out` and a space, on a line that ends
with a semicolon, and every line of this form at the top level is one of them.
-/
theorem places_outputs_iff (made : translateFragment source = .ok translation) :
    translation.PlacesOutputs source ↔ OutputsArePlain source := by
  constructor
  · intro placed
    constructor
    · intro index inside declares
      have looks := (places_iff made inside).mp ((placed.exactly index inside).mpr declares)
      exact looks.2
    · intro index inside looks
      have declares := (placed.exactly index inside).mp ((places_iff made inside).mpr looks)
      exact declares.2.2
  · intro plain
    constructor
    · intro index inside
      rw [places_iff made inside]
      constructor
      · intro looks
        have head := head?_tokens_of_isOutput looks.2.2
        exact ⟨head, looks.1, plain.others index inside looks⟩
      · intro declares
        exact ⟨declares.2.1, plain.declared index inside declares⟩
    · exact fun index inside => unplaced_code made inside

/-- A stage with two outputs, a parameter on a line of its own and one inside a body. -/
def outputStage : List Char :=
  ("out vec4 c; /* a */\nvoid f(out vec4 d,\n out vec4 e) \x7b\nout vec4 g;\n" ++
    "\x7d\n  out float h; // b").toList

theorem outputStage_placed :
    ∃ translation, translateFragment outputStage = .ok translation ∧
      OutputsArePlain outputStage ∧ translation.PlacesOutputs outputStage ∧
      DeclaresOutput outputStage 0 ∧ DeclaresOutput outputStage 5 := by
  have body : (translateFragment outputStage).toOption.map Translation.body =
      some ["layout(location = 0) out vec4 c; /* a */".toList, "void f(out vec4 d,".toList,
        " out vec4 e) \x7b".toList, "out vec4 g;".toList, "\x7d".toList,
        "layout(location = 0) out float h; // b".toList] := by
    decide +kernel
  have plain : OutputsArePlain outputStage := by
    constructor
    · decide +kernel
    · decide +kernel
  obtain ⟨translation, made, _⟩ := exists_translation body
  refine ⟨translation, made, plain, (places_outputs_iff made).mpr plain, ?_, ?_⟩
  · decide +kernel
  · decide +kernel

/-- A stage with an output behind a comment and a parameter on a line of its own. -/
def entangledStage : List Char :=
  "/*\n*/ out vec4 tint;\nvoid shade(\nout vec4 dark);\nvoid main() \x7b\x7d\n".toList

/--
The output behind a comment is not placed, because the place falls into the comment, and
the parameter is, because only braces are counted.
-/
theorem entangledStage_misplaced :
    ∃ translation, translateFragment entangledStage = .ok translation ∧
      (DeclaresOutput entangledStage 1 ∧ ¬ translation.Places entangledStage 1) ∧
      (¬ DeclaresOutput entangledStage 3 ∧ translation.Places entangledStage 3) ∧
      ¬ translation.PlacesOutputs entangledStage := by
  have body : (translateFragment entangledStage).toOption.map Translation.body =
      some ["/*".toList, "layout(location = 0) */ out vec4 tint;".toList, "void shade(".toList,
        "layout(location = 0) out vec4 dark);".toList, "void main() \x7b\x7d".toList] := by
    decide +kernel
  have length : (lines entangledStage).length = 5 := by decide +kernel
  have declared : DeclaresOutput entangledStage 1 ∧ ¬ LooksLikeOutput entangledStage 1 := by
    decide +kernel
  have parameter : ¬ DeclaresOutput entangledStage 3 ∧ LooksLikeOutput entangledStage 3 := by
    decide +kernel
  obtain ⟨translation, made, _⟩ := exists_translation body
  have unplaced : ¬ translation.Places entangledStage 1 :=
    fun places => declared.2 ((places_iff made (by omega)).mp places)
  have placed : translation.Places entangledStage 3 :=
    (places_iff made (by omega)).mpr parameter.2
  refine ⟨translation, made, ⟨declared.1, unplaced⟩, ⟨parameter.1, placed⟩, ?_⟩
  intro matching
  exact parameter.1 ((matching.exactly 3 (by omega)).mp placed)

end LiveShader.Source
