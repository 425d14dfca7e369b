/-!
# Images

An image is a row of bytes, four for each point: red, green, blue and opacity, row
after row from the top.
-/

namespace LiveShader

/-- An image of four bytes for each point. -/
structure Image where
  width : Nat
  height : Nat
  bytes : Array UInt8
  deriving DecidableEq

end LiveShader
