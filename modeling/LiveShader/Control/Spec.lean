import LiveShader.Control.Color
import LiveShader.Number.Text
import LiveShader.Text.Blank
import LiveShader.Text.Quoted

/-!
# Declared controls

A control has a name, a kind and a default.  The numeric kinds carry bounds, and
a value given to a control is brought into its kind and between its bounds, or
refused.
-/

namespace LiveShader.Control

/-- The four kinds of controls. -/
inductive KindName where
  | bool
  | int
  | float
  | color
  deriving Repr, DecidableEq

/-- The word for a kind in messages and manifests. -/
def KindName.text : KindName → String
  | .bool => "bool"
  | .int => "i32"
  | .float => "f32"
  | .color => "color"

/-- The kind of a control with the bounds of the numeric ones. -/
inductive Kind where
  | bool
  | int (low high : Int)
  | float (low high : Number.Single)
  | color
  deriving DecidableEq

/-- The kind without its bounds. -/
def Kind.name : Kind → KindName
  | .bool => .bool
  | .int .. => .int
  | .float .. => .float
  | .color => .color

/-- The value of a control.  A colour is kept as the text that was given. -/
inductive Value where
  | bool (value : Bool)
  | int (value : Int)
  | float (value : Number.Single)
  | color (text : String)
  deriving DecidableEq

/-- A value as messages quote it. -/
def Value.quoted : Value → String
  | .bool value => "Bool(" ++ (if value then "true" else "false") ++ ")"
  | .int value => "I32(" ++ toString value ++ ")"
  | .float value => "F32(" ++ Number.quotedStyle.writeSingle value ++ ")"
  | .color text => "Color(" ++ Text.quoted text ++ ")"

/-- Why a control or a value was refused. -/
inductive Error where
  | unknownControl (name : String)
  | invalidValue (name value : String) (expected : KindName)
  | invalidColor (text : String)
  | invalidBounds (name : String)
  deriving Repr, DecidableEq

/-- The wording of a refusal. -/
def Error.message : Error → String
  | .unknownControl name => "unknown control '" ++ name ++ "'"
  | .invalidValue name value expected =>
      "control '" ++ name ++ "' expects " ++ expected.text ++ ", got '" ++ value ++ "'"
  | .invalidColor text => "'" ++ text ++ "' is not a 3- or 6-digit hex colour"
  | .invalidBounds name => "control '" ++ name ++ "' has an empty or inverted range"

/-- A declared control. -/
structure Spec where
  name : String
  kind : Kind
  default : Value
  deriving DecidableEq

namespace Spec

/-- A switch. -/
def ofBool (name : String) (default : Bool) : Spec := ⟨name, .bool, .bool default⟩

/-- A whole number between two bounds; the default is brought between them. -/
def ofInt (name : String) (low high default : Int) : Except Error Spec :=
  if high < low then .error (.invalidBounds name)
  else .ok ⟨name, .int low high, .int (Number.clampInt default low high)⟩

/-- A number between two bounds; the default is brought between them. -/
def ofFloat (name : String) (low high default : Number.Single) : Except Error Spec :=
  if low ≤ high then .ok ⟨name, .float low high, .float (Number.clampSingle default low high)⟩
  else .error (.invalidBounds name)

/-- A colour. -/
def ofColor (name : String) (default : String) : Except Error Spec :=
  match Color.parse? default with
  | some _ => .ok ⟨name, .color, .color default⟩
  | none => .error (.invalidColor default)

/--
Brings a value into the control's kind and between its bounds.  Whole numbers and
finite numbers stand in for each other; every other mismatch is refused.
-/
def accept (spec : Spec) (value : Value) : Except Error Value :=
  match spec.kind, value with
  | .bool, .bool v => .ok (.bool v)
  | .int low high, .int v => .ok (.int (Number.clampInt v low high))
  | .int low high, .float v =>
      if v.isFinite then
        let rounded := (Number.decodeSingle v).roundAway Number.minInt32 Number.maxInt32
        .ok (.int (Number.clampInt rounded low high))
      else .error (.invalidValue spec.name value.quoted spec.kind.name)
  | .float low high, .float v =>
      if v.isFinite then .ok (.float (Number.clampSingle v low high))
      else .error (.invalidValue spec.name value.quoted spec.kind.name)
  | .float low high, .int v =>
      .ok (.float (Number.clampSingle (Number.singleOfInt v) low high))
  | .color, .color text =>
      match Color.parse? text with
      | some _ => .ok (.color text)
      | none => .error (.invalidColor text)
  | _, _ => .error (.invalidValue spec.name value.quoted spec.kind.name)

/-- The words for the two positions of a switch. -/
def boolWord? (word : String) : Option Bool :=
  if ["1", "true", "on", "yes"].contains word then some true
  else if ["0", "false", "off", "no"].contains word then some false
  else none

/-- Reads text as a value of a kind, blanks at the ends aside. -/
def readValue? (kind : Kind) (text : String) : Option Value :=
  match kind with
  | .bool => (boolWord? text).map .bool
  | .int .. => (Number.readInt32? text.toList).map .int
  | .float .. => (Number.readSingle? text.toList).map .float
  | .color => some (.color text)

/-- Reads text as a value of the control's kind and accepts it. -/
def parse (spec : Spec) (raw : String) : Except Error Value :=
  match readValue? spec.kind (Text.trimmed raw) with
  | some value => spec.accept value
  | none => .error (.invalidValue spec.name raw spec.kind.name)

end Spec

end LiveShader.Control
