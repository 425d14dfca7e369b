import LiveShader.Data.Json
import LiveShader.Data.Toml.Reader
import LiveShader.Manifest.Declaration

/-!
# The written form of a manifest

A manifest is a settings document whose `controls` are declarations, each written
as a table or as an array of its parts in order.  Declarations can also be written
out as JSON.
-/

namespace LiveShader.Manifest

open LiveShader.Data

/-- Reads a kind. -/
def kind? (word : String) : Option Control.KindName :=
  [Control.KindName.bool, .int, .float, .color].find? fun kind => kind.text == word

/-- Whether a value is an empty table or array. -/
def isHollow : Toml.Value → Bool
  | .array [] => true
  | .table _ [] => true
  | .tables [] => true
  | _ => false

/-- Reads a kind from its word, or from a table whose only key is the word. -/
def kindOf? : Toml.Value → Option Control.KindName
  | .string word => kind? word
  | .table _ [(word, inner)] => if isHollow inner then kind? word else none
  | _ => none

/-- Reads a name. -/
def nameOf? : Toml.Value → Option String
  | .string name => some name
  | _ => none

/-- Reads a bound. -/
def boundOf? : Toml.Value → Option Number.Double
  | .integer value => some (Number.doubleOfInt value)
  | .float value => some value
  | _ => none

/-- Reads a default. -/
def defaultOf? : Toml.Value → Option Written
  | .boolean value => some (.bool value)
  | .integer value => some (.int value)
  | .float value => some (.float value)
  | .string value => some (.text value)
  | _ => none

/-- Reads a part that may be missing. -/
def optional? {α : Type} (read : Toml.Value → Option α) : Option Toml.Value → Option (Option α)
  | none => some none
  | some value => (read value).map some

/-- Reads a declaration from its five parts. -/
def ofParts? (name kind low high default : Option Toml.Value) : Option Declaration := do
  let name ← name.bind nameOf?
  let kind ← kind.bind kindOf?
  let low ← optional? boundOf? low
  let high ← optional? boundOf? high
  let default ← optional? defaultOf? default
  some ⟨name, kind, low, high, default⟩

/-- Reads a declaration. -/
def declarationOf? (value : Toml.Value) : Option Declaration :=
  match value with
  | .table _ entries =>
      let part (key : String) : Option Toml.Value := Toml.Entries.get? key entries
      ofParts? (part "name") (part "type") (part "min") (part "max") (part "val")
  | other => do
      let items ← other.items?
      ofParts? items[0]? items[1]? items[2]? items[3]? items[4]?

/-- Reads the declarations of a document; without `controls` there are none. -/
def ofEntries? (entries : Toml.Entries) : Option (List Declaration) :=
  match Toml.Entries.get? "controls" entries with
  | none => some []
  | some value => do
      let items ← value.items?
      items.mapM declarationOf?

/-- Reads a manifest. -/
def read? (document : String) : Option (List Declaration) :=
  (Toml.read? document).bind ofEntries?

/-- A number as JSON. -/
def numberJson (value : Number.Double) : Json := .number (Number.dataStyle.writeDouble value)

/-- A default as JSON. -/
def Written.json : Written → Json
  | .bool value => .boolean value
  | .int value => .number (toString value)
  | .float value => numberJson value
  | .text value => .string value

/-- A declaration as JSON; parts that are not written are left out. -/
def Declaration.json (declaration : Declaration) : Json :=
  let part (name : String) (value : Option Json) : List (String × Json) :=
    value.toList.map fun json => (name, json)
  .object <|
    [("name", .string declaration.name), ("type", .string declaration.kind.text)] ++
      part "min" (declaration.low.map numberJson) ++
      part "max" (declaration.high.map numberJson) ++
      part "val" (declaration.default.map Written.json)

end LiveShader.Manifest
