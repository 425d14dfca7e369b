import LiveShader.Number.Multiple
import LiveShader.Text.Blank

/-!
# The block of uniforms

The uniforms of a fragment become members of one block.  The size of the viewport
comes first; every other member follows in the order of its first declaration, at
the next multiple of its own size.  Three-part vectors take the room of four and
truth values that of a whole number, so that size and alignment agree.
-/

namespace LiveShader.Uniform

/-- The types that a uniform of the block may have. -/
inductive DataType where
  | float
  | int
  | uint
  | bool
  | vec2
  | vec3
  | vec4
  deriving Repr, DecidableEq

/-- The instance name of the block. -/
def blockName : String := "workshop"

/-- The member that holds the size of the viewport. -/
def viewportMember : String := "workshop_viewport"

/-- The member of a uniform. -/
def memberName (name : String) : String := "u_" ++ name

namespace DataType

/-- The word for a type. -/
def word : DataType → String
  | .float => "float"
  | .int => "int"
  | .uint => "uint"
  | .bool => "bool"
  | .vec2 => "vec2"
  | .vec3 => "vec3"
  | .vec4 => "vec4"

/-- Every type. -/
def all : List DataType := [.float, .int, .uint, .bool, .vec2, .vec3, .vec4]

/-- The type of a word. -/
def ofWord? (word : String) : Option DataType := all.find? fun type => type.word == word

/-- The type as which a member is stored. -/
def storage : DataType → DataType
  | .bool => .uint
  | .vec3 => .vec4
  | type => type

/-- The number of bytes of a member, which is also its alignment. -/
def size : DataType → Nat
  | .float | .int | .uint | .bool => 4
  | .vec2 => 8
  | .vec3 | .vec4 => 16

/-- The expression that reads a member as the declared type. -/
def accessor (type : DataType) (name : String) : String :=
  let member := blockName ++ "." ++ memberName name
  match type with
  | .bool => "bool(" ++ member ++ ")"
  | .vec3 => member ++ ".xyz"
  | _ => member

end DataType

/-- Where a uniform stands in the block. -/
structure Slot where
  offset : Nat
  type : DataType
  deriving Repr, DecidableEq

/-- A uniform of the block. -/
structure Field where
  name : String
  slot : Slot
  deriving Repr, DecidableEq

/-- A uniform that was declared before with another type. -/
structure Redeclaration where
  name : String
  requested : DataType
  previous : DataType
  deriving Repr, DecidableEq

/-- The wording of a redeclaration. -/
def Redeclaration.message (fault : Redeclaration) : String :=
  "uniform '" ++ fault.name ++ "' redeclared as " ++ fault.requested.word ++
    " (previously " ++ fault.previous.word ++ ")"

/-- The uniforms of the block and where the next one may start. -/
structure Layout where
  fields : List Field
  cursor : Nat
  deriving Repr, DecidableEq

namespace Layout

/-- The block of the viewport alone. -/
def empty : Layout := ⟨[], DataType.vec2.size⟩

/-- The uniform of a name. -/
def field? (layout : Layout) (name : String) : Option Field :=
  layout.fields.find? fun field => field.name == name

/-- Where the uniform of a name stands. -/
def slot? (layout : Layout) (name : String) : Option Slot :=
  (layout.field? name).map Field.slot

/--
Adds a uniform at the end.  Declaring one again changes nothing, and declaring it
with another type is refused.
-/
def push (layout : Layout) (name : String) (type : DataType) : Except Redeclaration Layout :=
  match layout.field? name with
  | some field =>
      if field.slot.type = type then .ok layout
      else .error ⟨name, type, field.slot.type⟩
  | none =>
      let offset := Number.nextMultiple layout.cursor type.size
      .ok ⟨layout.fields ++ [⟨name, ⟨offset, type⟩⟩], offset + type.size⟩

/-- The number of bytes of the block, a multiple of sixteen. -/
def size (layout : Layout) : Nat := Number.nextMultiple layout.cursor 16

/-- The line that declares a member. -/
def memberLine (field : Field) : String :=
  "    " ++ field.slot.type.storage.word ++ " " ++ memberName field.name ++ ";"

/-- The line that lets a name stand for its member. -/
def aliasLine (field : Field) : String :=
  "#define " ++ field.name ++ " " ++ field.slot.type.accessor field.name

/-- The lines that declare the block, followed by an alias for each uniform. -/
def declaration (layout : Layout) : List String :=
  ["layout(std140, set = 0, binding = 0) uniform WorkshopParams \x7b",
    "    vec2 " ++ viewportMember ++ ";"] ++
    layout.fields.map memberLine ++
    ["\x7d " ++ blockName ++ ";"] ++
    layout.fields.map aliasLine

end Layout

end LiveShader.Uniform
