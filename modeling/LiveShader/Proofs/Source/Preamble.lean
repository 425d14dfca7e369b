import LiveShader.Proofs.Source.Comment
import LiveShader.Proofs.Source.Declaration
import LiveShader.Proofs.Uniform.Layout

/-!
# The lines in front of a fragment stage

Whatever uniforms are gathered, the lines that declare them are made of names and of a
few marks.  So they keep to themselves: none is broken or opens a comment, their braces
are balanced, and none is a declaration of a loose uniform.
-/

namespace LiveShader.Source

open LiveShader.Text

/-- A text of name characters and of the given marks. -/
def Made (marks text : List Char) : Prop := ∀ c ∈ text, isNameChar c = true ∨ c ∈ marks

instance (marks text : List Char) : Decidable (Made marks text) :=
  List.decidableBAll (fun c => isNameChar c = true ∨ c ∈ marks) text

section

variable {marks more text : List Char} {first second : String}

theorem Made.append (made₁ : Made marks first.toList) (made₂ : Made marks second.toList) :
    Made marks (first ++ second).toList := by
  intro c member
  rw [String.toList_append] at member
  rcases List.mem_append.mp member with early | late
  · exact made₁ c early
  · exact made₂ c late

theorem Made.mono (made : Made marks text) (fewer : marks ⊆ more) : Made more text := by
  intro c member
  rcases made c member with named | mark
  · exact Or.inl named
  · exact Or.inr (fewer mark)

theorem Made.not_mem (made : Made marks text) {c : Char} (unnamed : isNameChar c = false)
    (absent : c ∉ marks) : c ∉ text := by
  intro member
  rcases made c member with named | mark
  · rw [unnamed] at named
    cases named
  · exact absent mark

end

/-! ## Members and aliases -/

variable {field : Uniform.Field} {layout : Uniform.Layout}

theorem made_memberLine (identifier : isIdentifier field.name.toList = true) :
    Made [' ', ';'] (Uniform.Layout.memberLine field).toList := by
  have name : Made [' ', ';'] field.name.toList :=
    fun c member => Or.inl (isNameChar_of_isIdentifier identifier c member)
  have word : Made [' ', ';'] field.slot.type.storage.word.toList := by
    cases field.slot.type <;> decide
  rw [Uniform.Layout.memberLine, Uniform.memberName]
  refine Made.append (Made.append (Made.append (Made.append ?_ word) ?_) ?_) ?_
  · decide
  · decide
  · exact Made.append (by decide) name
  · decide

theorem made_aliasLine (identifier : isIdentifier field.name.toList = true) :
    Made ['#', ' ', '.', '(', ')'] (Uniform.Layout.aliasLine field).toList := by
  have name : Made ['#', ' ', '.', '(', ')'] field.name.toList :=
    fun c member => Or.inl (isNameChar_of_isIdentifier identifier c member)
  have member : Made ['#', ' ', '.', '(', ')']
      (Uniform.blockName ++ "." ++ Uniform.memberName field.name).toList :=
    Made.append (by decide) (Made.append (by decide) name)
  rw [Uniform.Layout.aliasLine]
  refine Made.append (Made.append (Made.append ?_ name) ?_) ?_
  · decide
  · decide
  · cases field.slot.type with
    | bool => exact Made.append (Made.append (by decide) member) (by decide)
    | vec3 => exact Made.append member (by decide)
    | _ => exact member

theorem tokens_memberLine (identifier : isIdentifier field.name.toList = true) :
    tokens (Uniform.Layout.memberLine field).toList =
      [.word field.slot.type.storage.word.toList,
        .word ("u_".toList ++ field.name.toList), .mark ';'] := by
  have spelled : (Uniform.Layout.memberLine field).toList = "    ".toList ++
      (field.slot.type.storage.word.toList ++
        ' ' :: (("u_".toList ++ field.name.toList) ++ [';'])) := by
    simp [Uniform.Layout.memberLine, Uniform.memberName]
  have blanks : Blanks "    ".toList := List.all_eq_true.mp (by decide)
  have mark : ∀ c ∈ "u_".toList, isNameChar c = true := List.all_eq_true.mp (by decide)
  have named : ∀ c ∈ "u_".toList ++ field.name.toList, isNameChar c = true := by
    intro c member
    rcases List.mem_append.mp member with early | late
    · exact mark c early
    · exact isNameChar_of_isIdentifier identifier c late
  obtain ⟨full, letters⟩ := Declaration.isNameChar_word field.slot.type.storage
  rw [spelled, tokens_blanks blanks, tokens_word _ full letters rfl, tokens_blank rfl,
    tokens_word [';'] (by simp) named rfl]
  rfl

/-! ## The whole preamble -/

/-- The lines that do not depend on the uniforms. -/
def fixedLines : List String :=
  ["#version 450", "#define GL_FRAGMENT_PRECISION_HIGH 1",
    "layout(std140, set = 0, binding = 0) uniform WorkshopParams \x7b",
    "    vec2 workshop_viewport;", "\x7d workshop;", "vec4 workshop_frag_coord;",
    "#define gl_FragCoord workshop_frag_coord", "#define main workshop_main"]

theorem fragmentPreamble_cases {line : String} (member : line ∈ fragmentPreamble layout) :
    line ∈ fixedLines ∨ ∃ field ∈ layout.fields,
      line = Uniform.Layout.memberLine field ∨ line = Uniform.Layout.aliasLine field := by
  simp only [fragmentPreamble, Uniform.Layout.declaration, List.mem_append, List.mem_map]
    at member
  rcases member with (opening | ((block | ⟨field, inside, rfl⟩) | closing) | ⟨field, inside, rfl⟩)
    | ending
  · left
    revert line
    decide
  · left
    revert line
    decide
  · exact Or.inr ⟨field, inside, Or.inl rfl⟩
  · left
    revert line
    decide
  · exact Or.inr ⟨field, inside, Or.inr rfl⟩
  · left
    revert line
    decide

/-- Every mark of the preamble. -/
def preambleMarks : List Char := [' ', ';', '#', '.', '(', ')', ',', '=', '\x7b', '\x7d']

theorem fixedLines_read : ∀ line ∈ fixedLines, Made preambleMarks line.toList ∧
    (.word "uniform".toList ∉ tokens line.toList ∨ .mark ';' ∉ tokens line.toList) := by
  simp only [fixedLines, List.forall_mem_cons, String.reduceToList]
  decide +kernel

theorem made_fragmentPreamble (built : layout.Built) :
    ∀ line ∈ fragmentPreamble layout, Made preambleMarks line.toList := by
  intro line member
  rcases fragmentPreamble_cases member with known | ⟨field, inside, rfl | rfl⟩
  · exact (fixedLines_read line known).1
  · exact (made_memberLine (built.identifiers field inside)).mono (by decide)
  · exact (made_aliasLine (built.identifiers field inside)).mono (by decide)

/-- No line of the preamble is a declaration: the word `uniform` or the semicolon is missing. -/
theorem undeclared_fragmentPreamble (built : layout.Built) :
    ∀ line ∈ fragmentPreamble layout,
      .word "uniform".toList ∉ tokens line.toList ∨ .mark ';' ∉ tokens line.toList := by
  intro line member
  rcases fragmentPreamble_cases member with known | ⟨field, inside, rfl | rfl⟩
  · exact (fixedLines_read line known).2
  · left
    rw [tokens_memberLine (built.identifiers field inside)]
    cases field.slot.type <;> simp [Uniform.DataType.storage, Uniform.DataType.word]
  · right
    intro mark
    have absent := (made_aliasLine (built.identifiers field inside)).not_mem (c := ';') rfl
      (by decide)
    exact absent (mem_of_mark_mem_tokens mark)

theorem rise_of_made {marks text : List Char} (made : Made marks text)
    (plain : '\x7b' ∉ marks ∧ '\x7d' ∉ marks) : rise (tokens text) = 0 := by
  rw [rise_tokens]
  have opening := made.not_mem rfl plain.1
  have closing := made.not_mem rfl plain.2
  clear made
  induction text with
  | nil => rfl
  | cons c text ih =>
      obtain ⟨opens, opening'⟩ := List.ne_and_not_mem_of_not_mem_cons opening
      obtain ⟨closes, closing'⟩ := List.ne_and_not_mem_of_not_mem_cons closing
      rw [braceBalance, if_neg (Ne.symm opens), if_neg (Ne.symm closes), ih opening' closing']
      rfl

theorem rise_lines {ls : List String} (flat : ∀ line ∈ ls, rise (tokens line.toList) = 0) :
    rise (ls.flatMap fun line => tokens line.toList) = 0 := by
  induction ls with
  | nil => rfl
  | cons line rest ih =>
      rw [List.flatMap_cons, rise_append, flat line List.mem_cons_self,
        ih fun other member => flat other (List.mem_cons_of_mem line member)]
      rfl

/-- The braces of the preamble are balanced. -/
theorem rise_fragmentPreamble (built : layout.Built) :
    rise ((fragmentPreamble layout).flatMap fun line => tokens line.toList) = 0 := by
  have members : rise ((layout.fields.map Uniform.Layout.memberLine).flatMap
      fun line => tokens line.toList) = 0 := by
    apply rise_lines
    intro line member
    obtain ⟨field, inside, rfl⟩ := List.mem_map.mp member
    exact rise_of_made (made_memberLine (built.identifiers field inside)) (by decide)
  have aliases : rise ((layout.fields.map Uniform.Layout.aliasLine).flatMap
      fun line => tokens line.toList) = 0 := by
    apply rise_lines
    intro line member
    obtain ⟨field, inside, rfl⟩ := List.mem_map.mp member
    exact rise_of_made (made_aliasLine (built.identifiers field inside)) (by decide)
  simp only [fragmentPreamble, Uniform.Layout.declaration, List.flatMap_append, rise_append,
    members, aliases, List.flatMap_cons, List.flatMap_nil, Uniform.viewportMember,
    Uniform.blockName, String.reduceAppend, String.reduceToList]
  decide +kernel

end LiveShader.Source
