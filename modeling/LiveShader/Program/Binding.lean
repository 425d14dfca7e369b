import LiveShader.Control.Values
import LiveShader.Device.Basic
import LiveShader.Playback.Inputs

/-!
# The uniforms of a program

Three uniforms are built in: the size of the view, the elapsed time and the
pointer.  Every control is a uniform as well.  Their places are looked up once,
when a program is built, and uniforms that the program does not use are skipped.
-/

namespace LiveShader.Program

/-- The names of the uniforms that are built in. -/
structure BuiltinNames where
  resolution : String
  time : String
  mouse : String
  deriving Repr, DecidableEq

/-- The names that fragments use. -/
def BuiltinNames.standard : BuiltinNames := ⟨"resolution", "time", "mouse"⟩

/-- The shape of a uniform. -/
inductive UniformKind where
  | float
  | int
  | bool
  | vec2
  | vec3
  deriving Repr, DecidableEq

/-- The word for a shape. -/
def UniformKind.word : UniformKind → String
  | .float => "float"
  | .int => "int"
  | .bool => "bool"
  | .vec2 => "vec2"
  | .vec3 => "vec3"

/-- The shape of a control's uniform. -/
def UniformKind.ofControl : Control.Kind → UniformKind
  | .bool => .bool
  | .int .. => .int
  | .float .. => .float
  | .color => .vec3

/-- A uniform and its place in the program, if it has one. -/
structure Binding (slot : Type) where
  name : String
  kind : UniformKind
  place : Option slot

/-- The values of the uniforms that are built in, for one frame. -/
structure FrameUniforms where
  resolution : Number.Single × Number.Single
  time : Number.Single
  mouse : Playback.Pointer

/-- The uniforms of one program. -/
structure Bindings (slot : Type) where
  resolution : Binding slot
  time : Binding slot
  mouse : Binding slot
  controls : List (Binding slot)

namespace Bindings

/-- Looks up one uniform. -/
def bind {δ : Type} [Device δ] (device : δ) (program : Device.Program δ) (name : String)
    (kind : UniformKind) : Binding (Device.Slot δ) :=
  ⟨name, kind, Device.slot? device program name⟩

/-- Looks up the uniforms of a program. -/
def resolve {δ : Type} [Device δ] (device : δ) (program : Device.Program δ)
    (builtins : BuiltinNames) (controls : List Control.Spec) : Bindings (Device.Slot δ) where
  resolution := bind device program builtins.resolution .vec2
  time := bind device program builtins.time .float
  mouse := bind device program builtins.mouse .vec2
  controls := controls.map fun spec => bind device program spec.name (.ofControl spec.kind)

/-- All uniforms, the ones that are built in first. -/
def toList {slot : Type} (bindings : Bindings slot) : List (Binding slot) :=
  bindings.resolution :: bindings.time :: bindings.mouse :: bindings.controls

/-- Writes a uniform if the program uses it. -/
def write {δ : Type} [Device δ] (device : δ) (binding : Binding (Device.Slot δ))
    (value : Uniform.Value) : δ :=
  match binding.place with
  | some slot => Device.setUniform device slot value
  | none => device

/-- Writes the current value of a control. -/
def writeControl {δ : Type} [Device δ] (values : Control.Values) (device : δ)
    (binding : Binding (Device.Slot δ)) : δ :=
  match values.uniform? binding.name with
  | some value => write device binding value
  | none => device

/-- Writes all uniforms of the bound program. -/
def upload {δ : Type} [Device δ] (bindings : Bindings (Device.Slot δ)) (device : δ)
    (frame : FrameUniforms) (values : Control.Values) : δ :=
  let device := write device bindings.resolution (.vec2 frame.resolution.1 frame.resolution.2)
  let device := write device bindings.time (.float frame.time)
  let device := write device bindings.mouse (.vec2 frame.mouse.x frame.mouse.y)
  bindings.controls.foldl (writeControl values) device

end Bindings

end LiveShader.Program
