import LiveShader.Number.Reading
import LiveShader.Text.Cut

/-!
# Strings of a settings document

There are four forms: between double quotes, where escapes count, or between
single quotes, where nothing does, and each on one line or over several lines
between tripled quotes.
-/

namespace LiveShader.Data.Toml

/-- Whether a character may stand in a comment or, quotes aside, in a string. -/
def isAllowed (c : Char) : Bool := c == '\t' || (0x20 ≤ c.toNat && c.toNat != 0x7f)

/-- Whether a character is a blank within a line. -/
def isSpace (c : Char) : Bool := c == ' ' || c == '\t'

/-- What follows a line end at the front. -/
def afterNewline? : List Char → Option (List Char)
  | '\n' :: rest => some rest
  | '\r' :: '\n' :: rest => some rest
  | _ => none

/-- The character with a given number, written in so many digits. -/
def numberedChar? (width : Nat) (text : List Char) : Option (Char × List Char) := do
  let digits := text.take width
  if digits.length = width then
    let value ← Number.digitsValue? Number.hexDigit? 16 digits
    if h : value.isValidChar then some (Char.ofNatAux value h, text.drop width) else none
  else none

/-- The character that an escape stands for, its backslash already taken. -/
def escape? (text : List Char) : Option (Char × List Char) :=
  match text with
  | 'b' :: rest => some ('\x08', rest)
  | 't' :: rest => some ('\t', rest)
  | 'n' :: rest => some ('\n', rest)
  | 'f' :: rest => some ('\x0c', rest)
  | 'r' :: rest => some ('\r', rest)
  | '"' :: rest => some ('"', rest)
  | '\\' :: rest => some ('\\', rest)
  | 'u' :: rest => numberedChar? 4 rest
  | 'U' :: rest => numberedChar? 8 rest
  | _ => none

/-- The rest of a string on one line, its opening quote already taken. -/
def lineString? (quote : Char) : Nat → List Char → Option (List Char × List Char)
  | 0, _ => none
  | _ + 1, [] => none
  | fuel + 1, c :: rest =>
      if c = quote then some ([], rest)
      else if c = '\\' ∧ quote = '"' then do
        let (escaped, rest) ← escape? rest
        let (tail, rest) ← lineString? quote fuel rest
        some (escaped :: tail, rest)
      else if isAllowed c then do
        let (tail, rest) ← lineString? quote fuel rest
        some (c :: tail, rest)
      else none

/-- What follows blanks and line ends, at least one line end among them. -/
def afterLineBreak? (text : List Char) : Option (List Char) :=
  match afterNewline? (text.dropWhile isSpace) with
  | none => none
  | some rest => some (skip rest.length rest)
where
  /-- Skips blanks and line ends. -/
  skip : Nat → List Char → List Char
    | 0, text => text
    | fuel + 1, text =>
        match text with
        | ' ' :: rest | '\t' :: rest => skip fuel rest
        | _ =>
            match afterNewline? text with
            | some rest => skip fuel rest
            | none => text

/--
The rest of a string over several lines.  Up to two quotes directly before the
closing ones belong to the string.
-/
def blockString? (quote : Char) : Nat → List Char → Option (List Char × List Char)
  | 0, _ => none
  | _ + 1, [] => none
  | fuel + 1, c :: rest =>
      if c = quote then
        let quotes := ((c :: rest).takeWhile (· == quote)).length
        if 3 ≤ quotes then
          let taken := min quotes 5
          some (List.replicate (taken - 3) quote, (c :: rest).drop taken)
        else do
          let (tail, rest) ← blockString? quote fuel rest
          some (c :: tail, rest)
      else if c = '\\' ∧ quote = '"' then
        match afterLineBreak? rest with
        | some rest => blockString? quote fuel rest
        | none => do
            let (escaped, rest) ← escape? rest
            let (tail, rest) ← blockString? quote fuel rest
            some (escaped :: tail, rest)
      else
        match afterNewline? (c :: rest) with
        | some rest => do
            let (tail, rest) ← blockString? quote fuel rest
            some ('\n' :: tail, rest)
        | none =>
            if isAllowed c then do
              let (tail, rest) ← blockString? quote fuel rest
              some (c :: tail, rest)
            else none

/-- Reads a string on one line. -/
def readLineString? (text : List Char) : Option (String × List Char) :=
  match text with
  | c :: rest =>
      if c = '"' ∨ c = '\'' then
        (lineString? c (rest.length + 1) rest).map fun found => (String.ofList found.1, found.2)
      else none
  | [] => none

/-- Reads a string of any form.  A line end right after tripled quotes is dropped. -/
def readString? (text : List Char) : Option (String × List Char) :=
  match text with
  | a :: b :: c :: rest =>
      if a = b ∧ b = c ∧ (a = '"' ∨ a = '\'') then
        let body := (afterNewline? rest).getD rest
        (blockString? a (body.length + 1) body).map fun found =>
          (String.ofList found.1, found.2)
      else readLineString? text
  | _ => readLineString? text

end LiveShader.Data.Toml
