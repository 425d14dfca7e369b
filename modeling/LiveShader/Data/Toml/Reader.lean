import LiveShader.Data.Toml.Quoted
import LiveShader.Data.Toml.Scalar

/-!
# Reading a settings document

A document is a sequence of lines: blank ones, comments, headers, and keys with
their values.  A malformed document is refused as a whole.  Arrays and tables
between braces may nest to a fixed depth.
-/

namespace LiveShader.Data.Toml

/-- The number of levels at which nesting is refused. -/
def depthLimit : Nat := 80

/-- What follows blanks within a line. -/
def skipSpaces (text : List Char) : List Char := text.dropWhile isSpace

/-- What follows a comment, if there is one. -/
def skipComment (text : List Char) : List Char :=
  match text with
  | '#' :: rest => rest.dropWhile isAllowed
  | _ => text

/-- What follows the blanks, the comment and the end of a line. -/
def endLine? (text : List Char) : Option (List Char) :=
  match skipComment (skipSpaces text) with
  | [] => some []
  | rest => afterNewline? rest

/-- What follows blanks, comments and line ends between the items of an array. -/
def skipLines : Nat → List Char → Option (List Char)
  | 0, text => some text
  | fuel + 1, text =>
      match skipSpaces text with
      | '#' :: rest => do
          let rest ← afterNewline? (rest.dropWhile isAllowed)
          skipLines fuel rest
      | rest =>
          match afterNewline? rest with
          | some after => skipLines fuel after
          | none => some rest

/-- Whether a character may stand in a key without quotes. -/
def isBareKeyChar (c : Char) : Bool := c.isAlphanum || c == '_' || c == '-'

/-- Reads one part of a key. -/
def readKeyPart? (text : List Char) : Option (String × List Char) :=
  match text with
  | '"' :: _ | '\'' :: _ => readLineString? text
  | _ =>
      let name := text.takeWhile isBareKeyChar
      if name.isEmpty then none
      else some (String.ofList name, text.dropWhile isBareKeyChar)

/-- Reads the parts of a key with dots between them. -/
def readKeyParts? : Nat → List Char → Option (List String × List Char)
  | 0, _ => none
  | fuel + 1, text => do
      let (part, rest) ← readKeyPart? (skipSpaces text)
      match skipSpaces rest with
      | '.' :: rest => do
          let (others, rest) ← readKeyParts? fuel rest
          some (part :: others, rest)
      | rest => some ([part], rest)

/-- Reads a key as the path to its last part and that part. -/
def readKey? (text : List Char) : Option ((List String × String) × List Char) := do
  let (parts, rest) ← readKeyParts? (depthLimit - 1) text
  let last ← parts.getLast?
  some ((parts.dropLast, last), rest)

/-- Reads the items of an array, its bracket already taken. -/
def readItems? (item : List Char → Option (Value × List Char)) :
    Nat → List Char → Option (List Value × List Char)
  | 0, _ => none
  | fuel + 1, text => do
      let text ← skipLines text.length text
      match text with
      | ']' :: rest => some ([], rest)
      | _ => do
          let (first, rest) ← item text
          let rest ← skipLines rest.length rest
          match rest with
          | ']' :: rest => some ([first], rest)
          | ',' :: rest => do
              let (others, rest) ← readItems? item fuel rest
              some (first :: others, rest)
          | _ => none

/-- Reads a key, an equals sign and a value. -/
def readPair? (item : List Char → Option (Value × List Char)) (text : List Char) :
    Option ((List String × String) × Value × List Char) := do
  let (key, rest) ← readKey? text
  match rest with
  | '=' :: rest => do
      let (value, rest) ← item (skipSpaces rest)
      some (key, value, rest)
  | _ => none

/-- Reads the entries of a table between braces, its brace already taken. -/
def readEntries? (item : List Char → Option (Value × List Char)) :
    Nat → Entries → List Char → Option (Entries × List Char)
  | 0, _, _ => none
  | fuel + 1, entries, text => do
      let ((path, key), value, rest) ← readPair? item (skipSpaces text)
      let entries ← entries.addDotted path key value
      match skipSpaces rest with
      | '\x7d' :: rest => some (entries, rest)
      | ',' :: rest => readEntries? item fuel entries rest
      | _ => none

/-- Reads a value; the first argument is the number of levels still allowed. -/
def readValue? : Nat → List Char → Option (Value × List Char)
  | depth, text =>
      match text with
      | '"' :: _ | '\'' :: _ =>
          (readString? text).map fun found => (.string found.1, found.2)
      | '[' :: rest =>
          match depth with
          | 0 => none
          | depth + 1 =>
              (readItems? (readValue? depth) (rest.length + 1) rest).map fun found =>
                (.array found.1, found.2)
      | '\x7b' :: rest =>
          match depth with
          | 0 => none
          | depth + 1 =>
              match skipSpaces rest with
              | '\x7d' :: rest => some (.table .braces [], rest)
              | _ =>
                  (readEntries? (readValue? depth) (rest.length + 1) [] rest).map fun found =>
                    (.table .braces found.1, found.2)
      | _ => readScalar? text

/-- The document read so far: its entries and the table that new keys go to. -/
structure Progress where
  entries : Entries
  /-- The path of the last header, empty before the first one. -/
  path : List String

/-- Reads a header, its first bracket already taken. -/
def readHeader? (progress : Progress) (text : List Char) : Option (Progress × List Char) := do
  let (double, text) := match text with
    | '[' :: rest => (true, rest)
    | _ => (false, text)
  let ((path, key), rest) ← readKey? text
  let rest ← mark? ']' rest
  let rest ← if double then mark? ']' rest else some rest
  let rest ← endLine? rest
  let entries ←
    if double then progress.entries.appendTable path key
    else progress.entries.openTable path key
  some (⟨entries, path ++ [key]⟩, rest)

/-- Reads a key with its value into the table of the last header. -/
def readLine? (progress : Progress) (text : List Char) : Option (Progress × List Char) := do
  let ((path, key), value, rest) ← readPair? (readValue? (depthLimit - 1)) text
  let rest ← endLine? rest
  let entries ← progress.entries.atHeader progress.path (Entries.addDotted path key value)
  some ({ progress with entries := entries }, rest)

/-- Reads lines until the text ends. -/
def readLines? : Nat → Progress → List Char → Option Entries
  | 0, _, _ => none
  | fuel + 1, progress, text =>
      match skipSpaces text with
      | [] => some progress.entries
      | '#' :: _ => do
          let rest ← endLine? text
          readLines? fuel progress rest
      | '[' :: rest => do
          let (progress, rest) ← readHeader? progress rest
          readLines? fuel progress rest
      | rest =>
          match afterNewline? rest with
          | some rest => readLines? fuel progress rest
          | none => do
              let (progress, rest) ← readLine? progress rest
              readLines? fuel progress rest

/-- Reads a document; a byte order mark in front does not count. -/
def read? (document : String) : Option Entries :=
  let text := match document.toList with
    | '\ufeff' :: rest => rest
    | text => text
  readLines? (text.length + 1) ⟨[], []⟩ text

end LiveShader.Data.Toml
