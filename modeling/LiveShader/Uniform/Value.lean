import LiveShader.Number.Binary

/-!
# Uniform values

The shapes in which a value is handed to a program.
-/

namespace LiveShader.Uniform

/-- A value in the shape in which it is uploaded. -/
inductive Value where
  | float (value : Number.Single)
  | int (value : Int)
  | vec2 (x y : Number.Single)
  | vec3 (x y z : Number.Single)
  deriving DecidableEq

end LiveShader.Uniform
