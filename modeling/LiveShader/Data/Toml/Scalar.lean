import LiveShader.Data.Toml.Value
import LiveShader.Number.Reading

/-!
# Numbers, dates and words of a settings document

A scalar that is not a string is one run of letters, digits and a few marks.  The
run as a whole is a date or time, a number, or one of the words for truth values
and special numbers.
-/

namespace LiveShader.Data.Toml

/-- Whether a character can belong to a number, a date or a word. -/
def isScalarChar (c : Char) : Bool :=
  c.isAlphanum || c == '_' || c == '+' || c == '-' || c == '.' || c == ':'

/-- Whether a character is a decimal digit. -/
def isDigit (c : Char) : Bool := '0' ≤ c && c ≤ '9'

/--
Digits with single underscores between them, the underscores taken out; nothing
when an underscore stands elsewhere or a character is no digit.
-/
def plainDigits? (digit : Char → Bool) : List Char → Option (List Char)
  | [] => none
  | [c] => if digit c then some [c] else none
  | c :: '_' :: rest =>
      if digit c then (plainDigits? digit rest).map (c :: ·) else none
  | c :: rest => if digit c then (plainDigits? digit rest).map (c :: ·) else none

/-- Decimal digits without a needless zero in front. -/
def wholeDigits? (text : List Char) : Option (List Char) :=
  match text with
  | ['0'] => some ['0']
  | '0' :: _ => none
  | _ => plainDigits? isDigit text

/-- A whole number within the 64-bit signed limits. -/
def inInt64? (value : Int) : Option Value :=
  if -9223372036854775808 ≤ value ∧ value ≤ 9223372036854775807 then some (.integer value)
  else none

/-- The digits of a base as a whole number. -/
def inBase? (base : Nat) (text : List Char) : Option Value := do
  let belongs (c : Char) : Bool :=
    match Number.hexDigit? c with
    | some value => value < base
    | none => false
  let digits ← plainDigits? belongs text
  let value ← Number.digitsValue? Number.hexDigit? base digits
  inInt64? value

/-- A whole number, decimal or with the mark of another base. -/
def integer? (text : List Char) : Option Value :=
  match text with
  | '0' :: 'x' :: rest => inBase? 16 rest
  | '0' :: 'o' :: rest => inBase? 8 rest
  | '0' :: 'b' :: rest => inBase? 2 rest
  | _ => do
      let (negative, body) := Number.splitSign text
      let digits ← wholeDigits? body
      let value ← Number.natOfDigits? digits
      inInt64? (if negative then -(value : Int) else value)

/-- The exponent of a number, with its letter and without underscores. -/
def exponentText? (text : List Char) : Option (List Char) :=
  match text with
  | 'e' :: '-' :: rest | 'E' :: '-' :: rest =>
      (plainDigits? isDigit rest).map fun digits => 'e' :: '-' :: digits
  | 'e' :: '+' :: rest | 'E' :: '+' :: rest | 'e' :: rest | 'E' :: rest =>
      (plainDigits? isDigit rest).map ('e' :: ·)
  | _ => none

/-- The special numbers by name. -/
def specialNumber? (text : List Char) : Option Value :=
  let (_, body) := Number.splitSign text
  if body = "inf".toList ∨ body = "nan".toList then
    (Number.readSpecial? .double text).map fun pattern => .float (.ofPattern pattern)
  else none

/--
A number with a fraction, an exponent, or both.  One that overflows upwards is
refused.
-/
def float? (text : List Char) : Option Value := do
  let (negative, body) := Number.splitSign text
  let isWhole (c : Char) : Bool := isDigit c || c == '_'
  let whole ← wholeDigits? (body.takeWhile isWhole)
  let tail := body.dropWhile isWhole
  let rest ← match tail with
    | '.' :: after => do
        let fraction ← plainDigits? isDigit (after.takeWhile isWhole)
        match after.dropWhile isWhole with
        | [] => some ('.' :: fraction)
        | power => (exponentText? power).map fun power' => '.' :: fraction ++ power'
    | power => exponentText? power
  let decimal ← Number.readDecimal? (whole ++ rest)
  let value := { decimal with negative := negative }.toDouble
  if value.isFinite || negative then some (.float value) else none

/-- A number of exactly so many digits within limits. -/
def field? (width low high : Nat) (text : List Char) : Option (Nat × List Char) := do
  let digits := text.take width
  if digits.length = width ∧ digits.all isDigit then
    let value ← Number.natOfDigits? digits
    if low ≤ value ∧ value ≤ high then some (value, text.drop width) else none
  else none

/-- What follows a given character at the front. -/
def mark? (c : Char) : List Char → Option (List Char)
  | [] => none
  | d :: rest => if c = d then some rest else none

/-- The number of days of a month. -/
def daysInMonth (year month : Nat) : Nat :=
  if month = 2 then
    if (year % 4 = 0 ∧ year % 100 ≠ 0) ∨ year % 400 = 0 then 29 else 28
  else if [4, 6, 9, 11].contains month then 30
  else 31

/-- What follows a calendar date at the front. -/
def afterDate? (text : List Char) : Option (List Char) := do
  let (year, rest) ← field? 4 0 9999 text
  let rest ← mark? '-' rest
  let (month, rest) ← field? 2 1 12 rest
  let rest ← mark? '-' rest
  let (_, rest) ← field? 2 1 (daysInMonth year month) rest
  some rest

/-- What follows a time of day at the front. -/
def afterTime? (text : List Char) : Option (List Char) := do
  let (_, rest) ← field? 2 0 23 text
  let rest ← mark? ':' rest
  let (_, rest) ← field? 2 0 59 rest
  let rest ← mark? ':' rest
  let (_, rest) ← field? 2 0 60 rest
  match rest with
  | '.' :: after =>
      if (after.takeWhile isDigit).isEmpty then none else some (after.dropWhile isDigit)
  | _ => some rest

/-- Whether a text is empty or the distance from universal time. -/
def isOffset (text : List Char) : Bool :=
  match text with
  | [] | ['Z'] | ['z'] => true
  | '+' :: rest | '-' :: rest =>
      (do
        let (_, rest) ← field? 2 0 23 rest
        let rest ← mark? ':' rest
        let (_, rest) ← field? 2 0 59 rest
        if rest.isEmpty then some () else none).isSome
  | _ => false

/-- Whether a text is a time of day, with a distance from universal time if it has one. -/
def isTimeWithOffset (text : List Char) : Bool :=
  match afterTime? text with
  | some rest => isOffset rest
  | none => false

/-- Whether a text is a date alone. -/
def isDate (text : List Char) : Bool := afterDate? text == some []

/-- Whether a text is a date, a time of day, or both with a letter between them. -/
def isMoment (text : List Char) : Bool :=
  match afterDate? text with
  | some [] => true
  | some (delimiter :: rest) => (delimiter == 'T' || delimiter == 't') && isTimeWithOffset rest
  | none => afterTime? text == some []

/-- Reads one run of characters as a value. -/
def scalar? (run : List Char) : Option Value :=
  if run = "true".toList then some (.boolean true)
  else if run = "false".toList then some (.boolean false)
  else if isMoment run then some .moment
  else (integer? run).orElse fun _ => (float? run).orElse fun _ => specialNumber? run

/--
Reads a scalar at the front of a text.  A date may be followed by one blank and a
time.
-/
def readScalar? (text : List Char) : Option (Value × List Char) := do
  let run := text.takeWhile isScalarChar
  let rest := text.dropWhile isScalarChar
  let value ← scalar? run
  match rest with
  | ' ' :: after =>
      let time := after.takeWhile isScalarChar
      if isDate run && !time.isEmpty then
        if isTimeWithOffset time then some (.moment, after.dropWhile isScalarChar) else none
      else some (value, rest)
  | _ => some (value, rest)

end LiveShader.Data.Toml
