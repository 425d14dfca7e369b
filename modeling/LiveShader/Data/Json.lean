import LiveShader.Text.Quoted

/-!
# Writing data as JSON

A value is written either on one line without blanks or over several lines with
two blanks per level.  The text of a number is chosen before it gets here.
-/

namespace LiveShader.Data

/-- A JSON value; the members of an object keep their order. -/
inductive Json where
  | null
  | boolean (value : Bool)
  | number (text : String)
  | string (text : String)
  | array (items : List Json)
  | object (members : List (String × Json))

namespace Json

/-- How one character of a string is written. -/
def escapedChar (c : Char) : String :=
  if c = '"' then "\\\""
  else if c = '\\' then "\\\\"
  else if c = '\n' then "\\n"
  else if c = '\r' then "\\r"
  else if c = '\t' then "\\t"
  else if c.toNat = 0x08 then "\\b"
  else if c.toNat = 0x0c then "\\f"
  else if c.toNat < 0x20 then "\\u" ++ Text.hexPadded 4 c.toNat
  else String.singleton c

/-- A string between quotes. -/
def quote (text : String) : String :=
  "\"" ++ String.join (text.toList.map escapedChar) ++ "\""

mutual

/-- Writes a value on one line. -/
def compact : Json → String
  | .null => "null"
  | .boolean value => if value then "true" else "false"
  | .number text => text
  | .string text => quote text
  | .array items => "[" ++ compactItems items ++ "]"
  | .object members => "\x7b" ++ compactMembers members ++ "\x7d"

/-- Writes the items of an array with commas between them. -/
def compactItems : List Json → String
  | [] => ""
  | [item] => compact item
  | item :: rest => compact item ++ "," ++ compactItems rest

/-- Writes the members of an object with commas between them. -/
def compactMembers : List (String × Json) → String
  | [] => ""
  | [(name, value)] => quote name ++ ":" ++ compact value
  | (name, value) :: rest => quote name ++ ":" ++ compact value ++ "," ++ compactMembers rest

end

/-- The start of a line at a nesting level. -/
def lineStart (level : Nat) : String :=
  "\n" ++ String.ofList (List.replicate (2 * level) ' ')

mutual

/-- Writes a value over several lines; an empty array or object stays on one. -/
def pretty (level : Nat) : Json → String
  | .null => "null"
  | .boolean value => if value then "true" else "false"
  | .number text => text
  | .string text => quote text
  | .array [] => "[]"
  | .array items => "[" ++ prettyItems (level + 1) items ++ lineStart level ++ "]"
  | .object [] => "\x7b\x7d"
  | .object members =>
      "\x7b" ++ prettyMembers (level + 1) members ++ lineStart level ++ "\x7d"

/-- Writes each item of an array on lines of its own. -/
def prettyItems (level : Nat) : List Json → String
  | [] => ""
  | [item] => lineStart level ++ pretty level item
  | item :: rest => lineStart level ++ pretty level item ++ "," ++ prettyItems level rest

/-- Writes each member of an object on lines of its own. -/
def prettyMembers (level : Nat) : List (String × Json) → String
  | [] => ""
  | [(name, value)] => lineStart level ++ quote name ++ ": " ++ pretty level value
  | (name, value) :: rest =>
      lineStart level ++ quote name ++ ": " ++ pretty level value ++ "," ++
        prettyMembers level rest

end

end Json

end LiveShader.Data
