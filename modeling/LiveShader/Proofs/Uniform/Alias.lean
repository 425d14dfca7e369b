import LiveShader.Proofs.Uniform.Layout
import LiveShader.Proofs.Uniform.Macro

/-!
# Names that stand for members

Behind the block, each declared name is defined to stand for its member.  Expanding a
name gives the expression that reads its member, unless a word of that expression was
itself declared: then the other name takes the word's place.
-/

namespace LiveShader.Uniform

open LiveShader.Source LiveShader.Text Macro

/-! ## The expression of a member -/

/-- The words of the expression that reads a member. -/
def DataType.accessorWords (type : DataType) (name : String) : List String :=
  match type with
  | .bool => ["bool", blockName, memberName name]
  | .vec3 => [blockName, memberName name, "xyz"]
  | _ => [blockName, memberName name]

/-- The tokens of the expression that reads a field. -/
def Field.reading (field : Field) : List Token :=
  tokens (field.slot.type.accessor field.name).toList

theorem tokens_member {name : List Char} (identifier : isIdentifier name = true)
    (rest : List Char) (ends : startsWord rest = false) :
    tokens ("workshop.u_".toList ++ name ++ rest) =
      .word "workshop".toList :: .mark '.' :: .word ("u_".toList ++ name) :: tokens rest := by
  have block : tokens ("workshop".toList ++ '.' :: ("u_".toList ++ name ++ rest)) =
      .word "workshop".toList :: tokens ('.' :: ("u_".toList ++ name ++ rest)) :=
    tokens_word _ (by decide) (List.all_eq_true.mp (by decide)) rfl
  have dot := tokens_mark (c := '.') (by decide) (by decide) ("u_".toList ++ name ++ rest)
  have mark : ∀ c ∈ "u_".toList, isNameChar c = true := List.all_eq_true.mp (by decide)
  have member : ∀ c ∈ "u_".toList ++ name, isNameChar c = true := by
    intro c present
    rcases List.mem_append.mp present with early | inside
    · exact mark c early
    · exact isNameChar_of_isIdentifier identifier c inside
  have word := tokens_word rest (by simp) member ends
  change tokens ("workshop".toList ++ '.' :: ("u_".toList ++ name ++ rest)) = _
  rw [block, dot, word]

/-- What stands before the member in an expression. -/
def DataType.opening : DataType → List Token
  | .bool => [.word "bool".toList, .mark '(']
  | _ => []

/-- What stands behind the member in an expression. -/
def DataType.closing : DataType → List Token
  | .bool => [.mark ')']
  | .vec3 => [.mark '.', .word "xyz".toList]
  | _ => []

theorem reading_eq {field : Field} (identifier : isIdentifier field.name.toList = true) :
    field.reading = field.slot.type.opening ++
      (.word blockName.toList :: .mark '.' :: .word (memberName field.name).toList ::
        field.slot.type.closing) := by
  have spelled : (blockName ++ "." ++ memberName field.name).toList =
      "workshop.u_".toList ++ field.name.toList := by
    simp [blockName, memberName]
  have member : (memberName field.name).toList = "u_".toList ++ field.name.toList := by
    simp [memberName]
  have plain := tokens_member identifier [] rfl
  rw [List.append_nil] at plain
  rw [Field.reading, member]
  generalize field.slot.type = type
  cases type with
  | bool =>
      have opened : tokens ("bool".toList ++
          '(' :: ("workshop.u_".toList ++ field.name.toList ++ [')'])) =
            .word "bool".toList ::
              tokens ('(' :: ("workshop.u_".toList ++ field.name.toList ++ [')'])) :=
        tokens_word _ (by decide) (List.all_eq_true.mp (by decide)) rfl
      have mark := tokens_mark (c := '(') (by decide) (by decide)
        ("workshop.u_".toList ++ field.name.toList ++ [')'])
      have closed := tokens_member identifier [')'] rfl
      simp only [DataType.accessor]
      rw [String.toList_append, String.toList_append, spelled]
      change tokens ("bool".toList ++
        '(' :: ("workshop.u_".toList ++ field.name.toList ++ [')'])) = _
      rw [opened, mark, closed]
      rfl
  | vec3 =>
      have swizzled := tokens_member identifier ".xyz".toList rfl
      simp only [DataType.accessor]
      rw [String.toList_append, spelled, swizzled]
      rfl
  | _ =>
      simp only [DataType.accessor]
      rw [spelled, plain]
      rfl

theorem word_mem_reading {field : Field} (identifier : isIdentifier field.name.toList = true)
    (name : String) : .word name.toList ∈ field.reading ↔
      name ∈ field.slot.type.accessorWords field.name := by
  rw [reading_eq identifier]
  generalize field.slot.type = type
  cases type <;>
    simp only [DataType.opening, DataType.closing, DataType.accessorWords, List.mem_append,
      List.mem_cons, List.not_mem_nil, Token.word.injEq, String.toList_inj, reduceCtorEq,
      false_or, or_false]

/-! ## The macros of a layout -/

namespace Layout

/-- The macros that the declaration of a layout defines. -/
def macros (layout : Layout) : Table :=
  layout.declaration.filterMap fun line => define? line.toList

theorem define?_memberLine (field : Field) : define? (memberLine field).toList = none := by
  rw [memberLine]
  generalize field.slot.type = type
  cases type <;>
    simp [define?, after?, trimStart, isBlank, DataType.storage, DataType.word]

theorem define?_aliasLine {field : Field} (identifier : isIdentifier field.name.toList = true) :
    define? (aliasLine field).toList = some (field.name.toList, field.reading) := by
  have spelled : (aliasLine field).toList = "#define ".toList ++
      (field.name.toList ++ ' ' :: (field.slot.type.accessor field.name).toList) := by
    simp [aliasLine]
  rw [spelled, define?_spelled (ne_nil_of_isIdentifier identifier)
    (isNameChar_of_isIdentifier identifier)]
  rfl

variable {layout : Layout}

/-- A layout defines its fields, each by the expression of its member, and nothing else. -/
theorem macros_eq (built : layout.Built) :
    layout.macros = layout.fields.map fun field => (field.name.toList, field.reading) := by
  have members : ∀ fields : List Field,
      (fields.map memberLine).filterMap (fun line => define? line.toList) = [] := by
    intro fields
    rw [List.filterMap_eq_nil_iff]
    intro line member
    obtain ⟨field, _, rfl⟩ := List.mem_map.mp member
    exact define?_memberLine field
  have aliases : ∀ fields : List Field,
      (∀ field ∈ fields, isIdentifier field.name.toList = true) →
        (fields.map aliasLine).filterMap (fun line => define? line.toList) =
          fields.map fun field => (field.name.toList, field.reading) := by
    intro fields identifiers
    induction fields with
    | nil => rfl
    | cons field rest ih =>
        have first := define?_aliasLine (identifiers field List.mem_cons_self)
        have others := ih fun other member =>
          identifiers other (List.mem_cons_of_mem field member)
        simp only [List.map_cons, List.filterMap_cons, first, others]
  have opening : (["layout(std140, set = 0, binding = 0) uniform WorkshopParams \x7b",
      "    vec2 " ++ viewportMember ++ ";"] : List String).filterMap
        (fun line => define? line.toList) = [] := by
    simp [define?, after?, trimStart, isBlank, viewportMember]
  have closing : (["\x7d " ++ blockName ++ ";"] : List String).filterMap
      (fun line => define? line.toList) = [] := by
    simp [define?, after?, trimStart, isBlank, blockName]
  rw [macros, declaration, List.filterMap_append, List.filterMap_append, List.filterMap_append,
    opening, members, closing, aliases _ built.identifiers]
  rfl

theorem body?_macros (built : layout.Built) {field : Field} (member : field ∈ layout.fields) :
    layout.macros.body? (.word field.name.toList) = some field.reading := by
  have found := built.pushed.field?_eq field member
  rw [field?] at found
  have named : (fun macro' : List Char × List Token => macro'.1 == field.name.toList) ∘
      (fun field : Field => (field.name.toList, field.reading)) =
        fun other => other.name == field.name := by
    funext other
    simp only [Function.comp_apply]
    rw [Bool.eq_iff_iff, beq_iff_eq, beq_iff_eq, String.toList_inj]
  rw [macros_eq built, Table.body?, List.find?_map, named, found]
  rfl

theorem long_macros (built : layout.Built) : layout.macros.Long := by
  intro macro' member
  rw [macros_eq built] at member
  obtain ⟨field, present, rfl⟩ := List.mem_map.mp member
  simp only [reading_eq (built.identifiers field present), List.length_append, List.length_cons]
  omega

theorem body?_without_eq_none_iff (built : layout.Built) (field : Field) (token : Token) :
    (layout.macros.without (.word field.name.toList)).body? token = none ↔
      ∀ other ∈ layout.fields, .word other.name.toList = token → other.name = field.name := by
  rw [Table.body?_eq_none_iff, Table.without, macros_eq built]
  constructor
  · intro kept other present same
    apply Decidable.byContradiction
    intro differ
    refine kept (other.name.toList, other.reading) ?_ same
    rw [List.mem_filter]
    refine ⟨List.mem_map_of_mem present, ?_⟩
    simpa [String.toList_inj] using differ
  · intro apart macro' member same
    obtain ⟨defined, differ⟩ := List.mem_filter.mp member
    obtain ⟨other, present, rfl⟩ := List.mem_map.mp defined
    have equal := apart other present same
    simp [equal] at differ

/--
A declared name is expanded to the expression of its own member exactly if no other
declared name is a word of that expression.
-/
theorem expands_to_member_iff (built : layout.Built) {field : Field}
    (member : field ∈ layout.fields) :
    expand layout.macros (.word field.name.toList) = field.reading ↔
      ∀ other ∈ layout.fields,
        other.name ∈ field.slot.type.accessorWords field.name → other.name = field.name := by
  have identifier := built.identifiers field member
  rw [expand_defined (body?_macros built member),
    flatMap_expand_eq_self_iff ((long_macros built).without _)]
  constructor
  · intro kept other present word
    have undefined' := kept _ ((word_mem_reading identifier other.name).mpr word)
    exact (body?_without_eq_none_iff built field _).mp undefined' other present rfl
  · intro apart token inside
    rw [body?_without_eq_none_iff built]
    intro other present same
    apply apart other present
    rw [← word_mem_reading identifier, same]
    exact inside

/-- The layout of two uniforms, one of which has the name of the other's member. -/
def nested : Layout := ⟨[⟨"time", ⟨8, .float⟩⟩, ⟨"u_time", ⟨12, .float⟩⟩], 16⟩

theorem built_nested : nested.Built := by
  have time : Layout.empty.push "time" .float = .ok ⟨[⟨"time", ⟨8, .float⟩⟩], 12⟩ := by rfl
  have both : (⟨[⟨"time", ⟨8, .float⟩⟩], 12⟩ : Layout).push "u_time" .float = .ok nested := by rfl
  exact .push (.push .empty (by decide) time) (by decide) both

/-- Each is expanded on its own, but the first reads through the second. -/
theorem time_captured :
    nested.Built ∧ ⟨"time", ⟨8, .float⟩⟩ ∈ nested.fields ∧
      expand nested.macros (.word "time".toList) = tokens "workshop.workshop.u_u_time".toList ∧
        expand nested.macros (.word "time".toList) ≠
          Field.reading ⟨"time", ⟨8, .float⟩⟩ := by
  refine ⟨built_nested, List.mem_cons_self, ?_⟩
  decide +kernel

/-- The layout of a vector and a truth value with names of their own. -/
def separate : Layout := ⟨[⟨"tint", ⟨16, .vec3⟩⟩, ⟨"workshop_on", ⟨32, .bool⟩⟩], 36⟩

theorem tint_expands_to_member :
    separate.Built ∧ expand separate.macros (.word "tint".toList) =
      tokens "workshop.u_tint.xyz".toList := by
  have tint : Layout.empty.push "tint" .vec3 = .ok ⟨[⟨"tint", ⟨16, .vec3⟩⟩], 32⟩ := by rfl
  have both : (⟨[⟨"tint", ⟨16, .vec3⟩⟩], 32⟩ : Layout).push "workshop_on" .bool =
      .ok separate := by rfl
  have built : separate.Built := .push (.push .empty (by decide) tint) (by decide) both
  refine ⟨built, ?_⟩
  have member : (⟨"tint", ⟨16, .vec3⟩⟩ : Field) ∈ separate.fields := by decide
  exact (expands_to_member_iff built member).mpr (by decide)

end Layout

end LiveShader.Uniform
