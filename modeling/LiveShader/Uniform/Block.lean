import LiveShader.Number.Binary
import LiveShader.Uniform.Layout
import LiveShader.Uniform.Value

/-!
# The bytes of a block

The block of one frame is a row of bytes, least byte of a number first.  A value
is written at its slot in the slot's type; one that does not fit the type, or
would reach past the end, changes nothing.
-/

namespace LiveShader.Uniform

/-- The bytes of a block. -/
abbrev Block := List UInt8

/-- The four bytes of a 32-bit word, the least first. -/
def wordBytes (word : Nat) : List UInt8 :=
  [word.toUInt8, (word / 256).toUInt8, (word / 65536).toUInt8, (word / 16777216).toUInt8]

/-- The bytes of a 32-bit number. -/
def floatBytes (value : Number.Single) : List UInt8 := wordBytes value.pattern

/-- The bytes of a whole number, negative ones as their complement. -/
def intBytes (value : Int) : List UInt8 := wordBytes (value % 4294967296).toNat

/-- The bytes of a value in a slot's type, if it fits that type. -/
def encode? (type : DataType) (value : Value) : Option (List UInt8) :=
  match type, value with
  | .float, .float v => some (floatBytes v)
  | .float, .int v => some (floatBytes (Number.singleOfInt v))
  | .int, .int v => some (intBytes v)
  | .int, .float v =>
      some (intBytes ((Number.decodeSingle v).roundAway Number.minInt32 Number.maxInt32))
  | .uint, .int v => some (intBytes (max v 0))
  | .bool, .int v => some (intBytes (if v = 0 then 0 else 1))
  | .bool, .float v => some (intBytes (if v.isZero then 0 else 1))
  | .vec2, .vec2 x y => some (floatBytes x ++ floatBytes y)
  | .vec3, .vec3 x y z | .vec4, .vec3 x y z =>
      some (floatBytes x ++ floatBytes y ++ floatBytes z ++ floatBytes (Number.singleOfInt 1))
  | _, _ => none

namespace Block

/-- A block of zeros. -/
def zeroed (size : Nat) : Block := List.replicate size 0

/-- Puts bytes at an offset if they do not reach past the end. -/
def put (block : Block) (offset : Nat) (bytes : List UInt8) : Block :=
  if offset + bytes.length ≤ block.length then
    block.take offset ++ bytes ++ block.drop (offset + bytes.length)
  else block

/-- Puts the size of the viewport in its place. -/
def setViewport (block : Block) (width height : Nat) : Block :=
  block.put 0 (floatBytes (Number.singleOfInt width) ++ floatBytes (Number.singleOfInt height))

/-- Writes a value at a slot. -/
def write (block : Block) (slot : Slot) (value : Value) : Block :=
  match encode? slot.type value with
  | some bytes => block.put slot.offset bytes
  | none => block

end Block

end LiveShader.Uniform
