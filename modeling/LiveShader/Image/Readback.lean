import LiveShader.Image.Basic
import LiveShader.Number.Multiple

/-!
# Images read back from a device

A device hands an image back row by row, and every row is padded to a multiple of
a fixed number of bytes.  The image is what is left when the padding is dropped
and the colours are put into the order red, green, blue.
-/

namespace LiveShader.Image

/-- The order in which a device stores the colours of a point. -/
inductive ChannelOrder where
  | redFirst
  | blueFirst
  deriving Repr, DecidableEq

/-- The unit to which the rows of a device are padded, in bytes. -/
def rowUnit : Nat := 256

/-- The number of bytes of a row. -/
def rowBytes (width : Nat) : Nat := 4 * width

/-- The number of bytes of a row with its padding. -/
def paddedRowBytes (width : Nat) : Nat := Number.nextMultiple (rowBytes width) rowUnit

/-- One row of the bytes that a device handed back, without its padding. -/
def readRow (data : Array UInt8) (width row : Nat) : Array UInt8 :=
  let start := row * paddedRowBytes width
  data.extract start (start + rowBytes width)

/-- The rows without their padding, one after the other. -/
def unpad (data : Array UInt8) (width height : Nat) : Array UInt8 :=
  (List.range height).foldl (fun bytes row => bytes ++ readRow data width row) #[]

/-- The byte at an index after the first and the third byte of each point change places. -/
def swappedByte (bytes : Array UInt8) (index : Nat) (byte : UInt8) : UInt8 :=
  if index % 4 = 0 then bytes.getD (index + 2) byte
  else if index % 4 = 2 then bytes.getD (index - 2) byte
  else byte

/-- The bytes with red in front. -/
def redFirst (order : ChannelOrder) (bytes : Array UInt8) : Array UInt8 :=
  match order with
  | .redFirst => bytes
  | .blueFirst => bytes.mapIdx (swappedByte bytes)

/-- An image of the given bytes, unless there are too few. -/
def ofBytes? (width height : Nat) (bytes : Array UInt8) : Option Image :=
  if 4 * width * height ≤ bytes.size then some ⟨width, height, bytes⟩ else none

/-- The image in the bytes that a device handed back, unless there are too few. -/
def ofReadback? (order : ChannelOrder) (width height : Nat) (data : Array UInt8) :
    Option Image :=
  ofBytes? width height (redFirst order (unpad data width height))

end LiveShader.Image
