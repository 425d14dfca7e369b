import LiveShader.Proofs.Source.Fate

/-!
# What a translation drops

A line is dropped for its first word or because it is a declaration that was gathered.  In
the second case the line holds nothing else, in the first case it may: the rest of a line
behind a precision statement goes with it.  So a translation drops only what it handles
exactly if the lines that begin with a version directive or a precision statement hold
nothing else.
-/

namespace LiveShader.Source

open LiveShader.Text Comment

/-- Whether tokens are a version directive, which takes the rest of its line. -/
def isVersionDirective : List Token → Bool
  | .mark '#' :: .word word :: _ => word == "version".toList
  | _ => false

/-- Whether tokens are precision statements, at least one, and nothing else. -/
def arePrecisionStatements : List Token → Bool
  | .word word :: .word precision :: .word type :: .mark ';' :: rest =>
      word == "precision".toList && precisions.contains precision && isIdentifier type &&
        (rest.isEmpty || arePrecisionStatements rest)
  | _ => false

/-- Code that a translation handles: nothing of it is missing in the translated text. -/
inductive Handled (layout : Uniform.Layout) (code : List Char) : Prop where
  | version (directive : isVersionDirective (tokens code) = true)
  | precision (statements : arePrecisionStatements (tokens code) = true)
  | uniform {declaration : Declaration} (alone : tokens code = declaration.spelling)
      (held : ∀ name ∈ declaration.names, ∃ offset,
        layout.slot? name = some ⟨offset, declaration.type⟩)

namespace Translation

/-- A translation has no code left for a line that had some. -/
def Drops (translation : Translation) (source : List Char) (index : Nat) : Prop :=
  index < (lines source).length ∧ Comment.codeLine source index ≠ [] ∧
    translation.codeLine index = []

instance (translation : Translation) (source : List Char) (index : Nat) :
    Decidable (translation.Drops source index) :=
  inferInstanceAs (Decidable (_ ∧ _ ∧ _))

/-- The tokens of the lines that are not dropped. -/
def remaining (translation : Translation) (source : List Char) : List Token :=
  ((List.range (lines source).length).filter fun index => ¬ translation.Drops source index).flatMap
    fun index => tokens (Comment.codeLine source index)

/-- A translation drops what it handles, and all else is there in its order. -/
structure DropsOnlyHandled (translation : Translation) (source : List Char) : Prop where
  handled : ∀ index, translation.Drops source index →
    Handled translation.layout (Comment.codeLine source index)
  remains : (translation.remaining source).Sublist ((codeLines translation.text).flatMap tokens)

end Translation

variable {code : List Char} {source : List Char} {translation : Translation} {index : Nat}

/-! ## First words -/

theorem exists_tokens_of_isSpoken (spoken : isSpoken code = true) :
    ∃ token others, tokens code = token :: others ∧ token ≠ .word "uniform".toList := by
  rw [← tokens_trimStart]
  rcases Bool.or_eq_true_iff.mp spoken with version | precision
  · obtain ⟨tail, begins⟩ := Option.isSome_iff_exists.mp version
    have spelled : trimStart code = '#' :: ("version".toList ++ tail) :=
      after?_eq_some_iff.mp begins
    rw [spelled, tokens_mark rfl rfl]
    exact ⟨_, _, rfl, nofun⟩
  · obtain ⟨tail, begins⟩ := Option.isSome_iff_exists.mp precision
    have spelled : trimStart code = "precision".toList ++ ' ' :: tail := by
      rw [after?_eq_some_iff.mp begins]
      rfl
    have named : ∀ c ∈ "precision".toList, isNameChar c = true := List.all_eq_true.mp (by decide)
    rw [spelled, tokens_word _ (by decide) named rfl]
    exact ⟨_, _, rfl, by decide⟩

theorem ne_nil_of_isSpoken (spoken : isSpoken code = true) : code ≠ [] := by
  rintro rfl
  cases spoken

theorem Handled.whole {layout : Uniform.Layout} (handled : Handled layout code)
    (spoken : isSpoken code = true) :
    isVersionDirective (tokens code) = true ∨ arePrecisionStatements (tokens code) = true := by
  cases handled with
  | version directive => exact Or.inl directive
  | precision statements => exact Or.inr statements
  | uniform alone held =>
      obtain ⟨token, others, read, other⟩ := exists_tokens_of_isSpoken spoken
      rw [read] at alone
      exact absurd (List.cons.inj alone).1 other

/-! ## Lines that remain -/

/-- The code of a line that is not dropped is there. -/
theorem tokens_sublist (made : translateFragment source = .ok translation)
    (inside : index < (lines source).length) (remains : ¬ translation.Drops source index) :
    (tokens (Comment.codeLine source index)).Sublist (tokens (translation.codeLine index)) := by
  have fate := fate_of_line made inside
  generalize left : translation.codeLine index = after at fate
  have empty : after = [] → Comment.codeLine source index = [] := by
    intro gone
    apply Classical.byContradiction
    intro full
    exact remains ⟨inside, full, left.trans gone⟩
  cases fate with
  | dropped spoken => rw [empty rfl]
  | gathered silent top tidy held => rw [empty rfl]
  | placed silent top outside output blanks =>
      rw [Scan.tokens_outputPlace, tokens_blanks blanks]
      exact List.sublist_append_right _ _
  | kept silent unplaced => exact List.Sublist.refl _

theorem length_body (made : translateFragment source = .ok translation) :
    translation.body.length = (lines source).length := by
  obtain ⟨_, _, _, rfl⟩ := translateFragment_cases made
  exact (rendering_lines Scan.start (lines source)).length_eq

theorem codes_body (made : translateFragment source = .ok translation) :
    codes false translation.body =
      (List.range (lines source).length).map translation.codeLine := by
  apply List.ext_getElem?
  intro index
  rw [getElem?_codes, List.getElem?_map, ← length_body made]
  by_cases inside : index < translation.body.length
  · have there := List.getElem?_eq_getElem inside
    rw [there, List.getElem?_range inside, Option.map_some, Option.map_some,
      Translation.codeLine_eq made there]
  · rw [List.getElem?_eq_none (by omega), List.getElem?_eq_none (by simpa using inside)]
    rfl

theorem flatMap_filter_sublist {indices : List Nat} {kept : Nat → Bool}
    {before after : Nat → List Token}
    (below : ∀ index ∈ indices, kept index = true → (before index).Sublist (after index)) :
    ((indices.filter kept).flatMap before).Sublist (indices.flatMap after) := by
  induction indices with
  | nil => exact List.Sublist.refl _
  | cons index rest ih =>
      have later := ih fun other member => below other (List.mem_cons_of_mem index member)
      rw [List.flatMap_cons]
      by_cases keep : kept index = true
      · rw [List.filter_cons_of_pos keep, List.flatMap_cons]
        exact (below index List.mem_cons_self keep).append later
      · rw [List.filter_cons_of_neg keep]
        exact later.trans (List.sublist_append_right _ _)

/-- Whatever is not dropped is there in its order. -/
theorem remaining_sublist (made : translateFragment source = .ok translation) :
    (translation.remaining source).Sublist ((codeLines translation.text).flatMap tokens) := by
  have user : (translation.remaining source).Sublist
      ((codes false translation.body).flatMap tokens) := by
    rw [codes_body made, List.flatMap_map]
    apply flatMap_filter_sublist
    intro index member remains
    exact tokens_sublist made (List.mem_range.mp member) (of_decide_eq_true remains)
  rw [codeLines_text made, List.flatMap_append, List.flatMap_append]
  exact (user.trans (List.sublist_append_left _ _)).trans (List.sublist_append_right _ _)

/-! ## Lines that are dropped -/

theorem exists_codeLine {line : List Char} (member : line ∈ codeLines source) (full : line ≠ []) :
    ∃ index < (lines source).length, Comment.codeLine source index = line := by
  obtain ⟨last, empty, equal⟩ := codeLines_eq source
  rw [equal] at member
  rcases List.mem_append.mp member with own | behind
  · obtain ⟨index, inside, rfl⟩ := List.mem_iff_getElem.mp own
    refine ⟨index, ?_, ?_⟩
    · rwa [length_codes] at inside
    · rw [Comment.codeLine, equal, List.getD_eq_getElem?_getD,
        List.getElem?_append_left inside, List.getElem?_eq_getElem inside]
      rfl
  · exact absurd (empty line behind) full

theorem drops_of_isSpoken (made : translateFragment source = .ok translation)
    (inside : index < (lines source).length)
    (spoken : isSpoken (Comment.codeLine source index) = true) :
    translation.Drops source index := by
  have fate := fate_of_line made inside
  generalize left : translation.codeLine index = after at fate
  refine ⟨inside, ne_nil_of_isSpoken spoken, ?_⟩
  cases fate with
  | dropped _ => exact left
  | gathered silent top tidy held => exact left
  | placed silent top outside output blanks =>
      rw [spoken] at silent
      cases silent
  | kept silent unplaced =>
      rw [spoken] at silent
      cases silent

theorem handled_of_drops (made : translateFragment source = .ok translation)
    (drops : translation.Drops source index)
    (whole : isSpoken (Comment.codeLine source index) = true →
      isVersionDirective (tokens (Comment.codeLine source index)) = true ∨
        arePrecisionStatements (tokens (Comment.codeLine source index)) = true) :
    Handled translation.layout (Comment.codeLine source index) := by
  obtain ⟨inside, full, gone⟩ := drops
  have fate := fate_of_line made inside
  generalize translation.codeLine index = after at fate gone
  cases fate with
  | dropped spoken =>
      rcases whole spoken with directive | statements
      · exact .version directive
      · exact .precision statements
  | gathered silent top tidy held => exact .uniform tidy.alone held
  | placed silent top outside output blanks => cases gone
  | kept silent unplaced => exact absurd gone full

/--
A translation drops only what it handles exactly if every line of code that begins with
`#version` or `precision` is a version directive or consists of precision statements.
-/
theorem drops_only_handled_iff (made : translateFragment source = .ok translation) :
    translation.DropsOnlyHandled source ↔
      ∀ line ∈ codeLines source, isSpoken line = true →
        isVersionDirective (tokens line) = true ∨ arePrecisionStatements (tokens line) = true := by
  constructor
  · intro only line member spoken
    obtain ⟨index, inside, rfl⟩ := exists_codeLine member (ne_nil_of_isSpoken spoken)
    have handled := only.handled index (drops_of_isSpoken made inside spoken)
    exact handled.whole spoken
  · intro whole
    constructor
    · intro index drops
      apply handled_of_drops made drops
      apply whole
      obtain ⟨inside, full, _⟩ := drops
      rw [Comment.codeLine, List.getD_eq_getElem?_getD] at full ⊢
      cases there : (codeLines source)[index]? with
      | none =>
          rw [there] at full
          exact absurd rfl full
      | some line => exact List.mem_of_getElem? there
    · exact remaining_sublist made

/-- A stage with two precision statements on one line and a gathered declaration. -/
def preciseStage : List Char :=
  "#version 300 es\nprecision highp float; precision mediump int; // both\nuniform vec2 a;\n".toList

theorem preciseStage_drops_only_handled :
    ∃ translation, translateFragment preciseStage = .ok translation ∧
      translation.DropsOnlyHandled preciseStage ∧ translation.body = [[], [], []] := by
  have body : (translateFragment preciseStage).toOption.map Translation.body =
      some [[], [], []] := by
    decide +kernel
  have whole : ∀ line ∈ codeLines preciseStage, isSpoken line = true →
      isVersionDirective (tokens line) = true ∨ arePrecisionStatements (tokens line) = true := by
    decide +kernel
  obtain ⟨translation, made, bare⟩ := exists_translation body
  exact ⟨translation, made, (drops_only_handled_iff made).mpr whole, bare⟩

/-- A stage that declares a constant behind a precision statement. -/
def sharedStage : List Char :=
  "precision highp float; float gain = 1.0;\nvoid main() \x7b\x7d\n".toList

/-- The declaration behind a precision statement is lost. -/
theorem gain_dropped :
    ∃ translation, translateFragment sharedStage = .ok translation ∧
      translation.Drops sharedStage 0 ∧
      .word "gain".toList ∈ tokens (Comment.codeLine sharedStage 0) ∧
      .word "gain".toList ∉ (codeLines translation.text).flatMap tokens ∧
      ¬ translation.DropsOnlyHandled sharedStage := by
  have read : (translateFragment sharedStage).toOption.map (fun translation =>
      decide (translation.Drops sharedStage 0 ∧
        .word "gain".toList ∉ (codeLines translation.text).flatMap tokens)) = some true := by
    decide +kernel
  have code : isSpoken (Comment.codeLine sharedStage 0) = true ∧
      .word "gain".toList ∈ tokens (Comment.codeLine sharedStage 0) ∧
      isVersionDirective (tokens (Comment.codeLine sharedStage 0)) = false ∧
      arePrecisionStatements (tokens (Comment.codeLine sharedStage 0)) = false := by
    decide +kernel
  obtain ⟨spoken, there, notVersion, notPrecision⟩ := code
  obtain ⟨translation, made, decided⟩ := exists_translation read
  obtain ⟨drops, absent⟩ := of_decide_eq_true decided
  refine ⟨translation, made, drops, there, absent, ?_⟩
  intro only
  rcases (only.handled 0 drops).whole spoken with directive | statements
  · rw [notVersion] at directive
    cases directive
  · rw [notPrecision] at statements
    cases statements

end LiveShader.Source
