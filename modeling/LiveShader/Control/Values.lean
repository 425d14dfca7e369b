import LiveShader.Control.Spec
import LiveShader.Uniform.Value

/-!
# The values of the declared controls

The values stand beside the list of declared controls and outlive any one frame.
Installing a list of controls sets every value to its default; after that a value
changes only by an accepted setting of its own control.
-/

namespace LiveShader.Control

/-- Declared controls and the current value under each name. -/
structure Values where
  specs : List Spec
  values : List (String × Value)
  deriving DecidableEq

namespace Values

/-- The value under a name. -/
def lookup (name : String) : List (String × Value) → Option Value
  | [] => none
  | (other, value) :: rest => if other = name then some value else lookup name rest

/-- Puts a value under a name in place of the one there. -/
def insert (name : String) (value : Value) : List (String × Value) → List (String × Value)
  | [] => [(name, value)]
  | (other, old) :: rest =>
      if other = name then (name, value) :: rest else (other, old) :: insert name value rest

/--
Every control at its default.  Of two controls with one name the later default
counts.
-/
def ofSpecs (specs : List Spec) : Values where
  specs := specs
  values := specs.foldl (fun values spec => insert spec.name spec.default values) []

/-- No controls at all. -/
def empty : Values := ⟨[], []⟩

/-- The current value of a control. -/
def get? (controls : Values) (name : String) : Option Value := lookup name controls.values

/-- The first declaration under a name. -/
def spec? (controls : Values) (name : String) : Option Spec :=
  controls.specs.find? fun spec => spec.name == name

/-- Changes one value by what its control makes of it. -/
def update (controls : Values) (name : String) (accept : Spec → Except Error Value) :
    Except Error Values :=
  match controls.spec? name with
  | none => .error (.unknownControl name)
  | some spec =>
      match accept spec with
      | .ok value => .ok { controls with values := insert name value controls.values }
      | .error refusal => .error refusal

/-- Sets a control to a value. -/
def set (controls : Values) (name : String) (value : Value) : Except Error Values :=
  controls.update name fun spec => spec.accept value

/-- Sets a control from text. -/
def setText (controls : Values) (name raw : String) : Except Error Values :=
  controls.update name fun spec => spec.parse raw

/-- The shape in which a value is uploaded. -/
def upload? : Value → Option Uniform.Value
  | .bool value => some (.int (if value then 1 else 0))
  | .int value => some (.int value)
  | .float value => some (.float value)
  | .color text => (Color.parse? text).map fun color =>
      let (red, green, blue) := color.channels
      .vec3 red green blue

/-- The value of a control in the shape in which it is uploaded. -/
def uniform? (controls : Values) (name : String) : Option Uniform.Value :=
  (controls.get? name).bind upload?

end Values

end LiveShader.Control
