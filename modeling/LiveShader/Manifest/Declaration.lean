import LiveShader.Control.Spec

/-!
# Declarations of controls

A manifest declares controls by name and kind, with optional bounds and an
optional default.  A declaration is judged without being turned into a control:
every fault is named, and a manifest without faults yields one control for each
declaration.
-/

namespace LiveShader.Manifest

/-- A default as it is written. -/
inductive Written where
  | bool (value : Bool)
  | int (value : Int)
  | float (value : Number.Double)
  | text (value : String)
  deriving DecidableEq

/-- A default as a number. -/
def Written.number? : Written → Option Number.Double
  | .int value => some (Number.doubleOfInt value)
  | .float value => some value
  | _ => none

/-- One declared control. -/
structure Declaration where
  name : String
  kind : Control.KindName
  low : Option Number.Double
  high : Option Number.Double
  default : Option Written
  deriving DecidableEq

namespace Declaration

/-- The bounds, when both are given. -/
def bounds? (declaration : Declaration) : Option (Number.Double × Number.Double) :=
  match declaration.low, declaration.high with
  | some low, some high => some (low, high)
  | _, _ => none

/-- The default of a switch; off unless it is written as on. -/
def defaultBool (declaration : Declaration) : Bool :=
  match declaration.default with
  | some (.bool value) => value
  | _ => false

/-- The default as a number; the lower bound when none is written. -/
def defaultNumber? (declaration : Declaration) : Option Number.Double :=
  match declaration.default with
  | some written => written.number?
  | none => declaration.low

/-- The default of a colour; black unless a text is written. -/
def defaultColor (declaration : Declaration) : String :=
  match declaration.default with
  | some (.text value) => value
  | _ => "#000000"

/-- A fault of a declaration or of a list of them. -/
inductive Issue where
  | blankName
  | repeatedName (name : String)
  | notBoolean (name : String)
  | missingBounds (name : String)
  | invertedBounds (name : String) (low high : Number.Double)
  | fractionalBounds (name : String)
  | outsideBounds (name : String) (value low high : Number.Double)
  | fractionalDefault (name : String)
  | notNumber (name : String)
  | notColorText (name : String)
  | notColor (name text : String)
  deriving DecidableEq

/-- The wording of a fault. -/
def Issue.message : Issue → String
  | .blankName => "control names must not be empty"
  | .repeatedName name => "control '" ++ name ++ "' is declared twice"
  | .notBoolean name => "control '" ++ name ++ "' needs a boolean default"
  | .missingBounds name => "control '" ++ name ++ "' needs both min and max"
  | .invertedBounds name low high =>
      "control '" ++ name ++ "' has min " ++ Number.plainStyle.writeDouble low ++
        " above max " ++ Number.plainStyle.writeDouble high
  | .fractionalBounds name => "control '" ++ name ++ "' needs 32-bit integer bounds"
  | .outsideBounds name value low high =>
      "control '" ++ name ++ "' default " ++ Number.plainStyle.writeDouble value ++
        " is outside [" ++ Number.plainStyle.writeDouble low ++ ", " ++
        Number.plainStyle.writeDouble high ++ "]"
  | .fractionalDefault name => "control '" ++ name ++ "' needs an integer default"
  | .notNumber name => "control '" ++ name ++ "' needs a numeric default"
  | .notColorText name => "control '" ++ name ++ "' needs a hex colour default"
  | .notColor name text =>
      "control '" ++ name ++ "' default '" ++ text ++ "' is not a hex colour"

/-- Whether a number has no fraction. -/
def isWhole (value : Number.Double) : Bool := (Number.decodeDouble value).isIntegral

/-- Whether a number is a 32-bit signed integer. -/
def isInt32 (value : Number.Double) : Bool :=
  isWhole value && Number.doubleOfInt Number.minInt32 ≤ value &&
    value ≤ Number.doubleOfInt Number.maxInt32

/-- The faults of a default of a numeric control. -/
def defaultIssues (declaration : Declaration) (low high : Number.Double) : List Issue :=
  match declaration.defaultNumber? with
  | none => [.notNumber declaration.name]
  | some value =>
      if value < low || high < value then [.outsideBounds declaration.name value low high]
      else if declaration.kind == .int && !isWhole value then
        [.fractionalDefault declaration.name]
      else []

/-- The faults of a numeric declaration. -/
def numericIssues (declaration : Declaration) : List Issue :=
  match declaration.bounds? with
  | none => [.missingBounds declaration.name]
  | some (low, high) =>
      if low ≤ high then
        (if declaration.kind == .int && !(isInt32 low && isInt32 high) then
          [.fractionalBounds declaration.name]
        else []) ++ declaration.defaultIssues low high
      else [.invertedBounds declaration.name low high]

/-- The faults of a declaration, its name aside. -/
def issues (declaration : Declaration) : List Issue :=
  match declaration.kind with
  | .bool =>
      match declaration.default with
      | none | some (.bool _) => []
      | _ => [.notBoolean declaration.name]
  | .int | .float => declaration.numericIssues
  | .color =>
      match declaration.default with
      | none | some (.text _) =>
          if Control.Color.isWellFormed declaration.defaultColor then []
          else [.notColor declaration.name declaration.defaultColor]
      | _ => [.notColorText declaration.name]

/-- The faults of a list of declarations, given the names before it. -/
def issuesAfter (seen : List String) : List Declaration → List Issue
  | [] => []
  | declaration :: rest =>
      if (Text.trim declaration.name.toList).isEmpty then
        .blankName :: issuesAfter seen rest
      else if seen.contains declaration.name then
        .repeatedName declaration.name :: declaration.issues ++ issuesAfter seen rest
      else declaration.issues ++ issuesAfter (declaration.name :: seen) rest

/-- The faults of a manifest's declarations, in their order. -/
def validate (declarations : List Declaration) : List Issue := issuesAfter [] declarations

/-- Why a declaration yields no control. -/
inductive SpecFault where
  | missingBounds
  | refused (cause : Control.Error)
  deriving DecidableEq

/-- The wording of a fault. -/
def SpecFault.message : SpecFault → String
  | .missingBounds => "numeric controls need both min and max"
  | .refused cause => cause.message

/-- A number cut to a 32-bit signed integer. -/
def toInt32 (value : Number.Double) : Int :=
  (Number.decodeDouble value).truncate Number.minInt32 Number.maxInt32

/-- The control that a declaration yields. -/
def toSpec (declaration : Declaration) : Except SpecFault Control.Spec :=
  match declaration.kind with
  | .bool => .ok (.ofBool declaration.name declaration.defaultBool)
  | .int =>
      match declaration.bounds? with
      | none => .error .missingBounds
      | some (low, high) =>
          (Control.Spec.ofInt declaration.name (toInt32 low) (toInt32 high)
            (toInt32 (declaration.defaultNumber?.getD low))).mapError .refused
  | .float =>
      match declaration.bounds? with
      | none => .error .missingBounds
      | some (low, high) =>
          (Control.Spec.ofFloat declaration.name (Number.singleOfDouble low)
            (Number.singleOfDouble high)
            (Number.singleOfDouble (declaration.defaultNumber?.getD low))).mapError .refused
  | .color =>
      (Control.Spec.ofColor declaration.name declaration.defaultColor).mapError .refused

/-- The first declaration that yields no control, and why. -/
structure SpecError where
  control : String
  fault : SpecFault
  deriving DecidableEq

/-- The wording of an error, its context first. -/
def SpecError.causes (error : SpecError) : List String :=
  ["invalid control '" ++ error.control ++ "'", error.fault.message]

/-- The controls that a list of declarations yields, in its order. -/
def toSpecs : List Declaration → Except SpecError (List Control.Spec)
  | [] => .ok []
  | declaration :: rest =>
      match declaration.toSpec with
      | .error fault => .error ⟨declaration.name, fault⟩
      | .ok spec =>
          match toSpecs rest with
          | .error error => .error error
          | .ok specs => .ok (spec :: specs)

end Declaration

end LiveShader.Manifest
