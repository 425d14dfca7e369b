import LiveShader.Number.Shortest

/-!
# Reading numbers

Decimal text is read exactly: digits, a point and a power of ten make a ratio,
and the ratio is rounded once.  Integers are read within limits and refused
beyond them.
-/

namespace LiveShader.Number

/-- The value of a run of digits in some base, nothing if a character is no digit. -/
def digitsValue? (digit : Char → Option Nat) (base : Nat) (digits : List Char) : Option Nat :=
  digits.foldlM (fun value c => (digit c).map (base * value + ·)) 0

/-- The value of a decimal digit. -/
def decimalDigit? (c : Char) : Option Nat :=
  if '0' ≤ c ∧ c ≤ '9' then some (c.toNat - '0'.toNat) else none

/-- The value of a digit of base sixteen, in either case. -/
def hexDigit? (c : Char) : Option Nat :=
  if '0' ≤ c ∧ c ≤ '9' then some (c.toNat - '0'.toNat)
  else if 'a' ≤ c ∧ c ≤ 'f' then some (c.toNat - 'a'.toNat + 10)
  else if 'A' ≤ c ∧ c ≤ 'F' then some (c.toNat - 'A'.toNat + 10)
  else none

/-- The value of a nonempty run of decimal digits. -/
def natOfDigits? (digits : List Char) : Option Nat :=
  if digits.isEmpty then none else digitsValue? decimalDigit? 10 digits

/-- Splits a sign off a text; without one the text is positive. -/
def splitSign : List Char → Bool × List Char
  | '-' :: rest => (true, rest)
  | '+' :: rest => (false, rest)
  | text => (false, text)

/-- Reads a signed decimal integer within the 32-bit signed limits. -/
def readInt32? (text : List Char) : Option Int := do
  let (negative, digits) := splitSign text
  let magnitude ← natOfDigits? digits
  let value : Int := if negative then -(magnitude : Int) else magnitude
  if minInt32 ≤ value ∧ value ≤ maxInt32 then some value else none

/-- Reads an unsigned decimal integer below `2 ^ 32`; a plus sign may stand in front. -/
def readUInt32? (text : List Char) : Option Nat := do
  let digits := match text with
    | '+' :: rest => rest
    | _ => text
  let value ← natOfDigits? digits
  if value < 4294967296 then some value else none

/-- Reads a byte in base sixteen; a plus sign may stand in front. -/
def readHexByte? (text : List Char) : Option Nat := do
  let digits := match text with
    | '+' :: rest => rest
    | _ => text
  let value ← if digits.isEmpty then none else digitsValue? hexDigit? 16 digits
  if value < 256 then some value else none

/--
The pattern nearest to `coefficient * 10 ^ exponent`.  Powers that are certain to
overflow or vanish are settled without computing them.
-/
def Format.ofDecimal (format : Format) (coefficient : Nat) (exponent : Int) : Nat :=
  let power := exponent + digitCount coefficient
  if coefficient = 0 then 0
  else if 400 < power then format.infinityBits
  else if power < -400 then 0
  else
    let unit := powerOfTen exponent
    format.roundRatio (coefficient * unit.1) unit.2

/-- The digits, point and exponent of a decimal number, before any rounding. -/
structure DecimalText where
  negative : Bool
  coefficient : Nat
  exponent : Int
  deriving Repr

/-- Reads a signed decimal exponent of any length. -/
def readExponent? (text : List Char) : Option Int := do
  let (negative, digits) := splitSign text
  let magnitude ← natOfDigits? digits
  some (if negative then -(magnitude : Int) else magnitude)

/--
Reads digits with an optional point and an optional exponent.  At least one
digit has to stand before or after the point.
-/
def readDecimal? (text : List Char) : Option DecimalText := do
  let (negative, body) := splitSign text
  let isDigit (c : Char) : Bool := (decimalDigit? c).isSome
  let whole := body.takeWhile isDigit
  let afterWhole := body.dropWhile isDigit
  let (fraction, afterFraction) := match afterWhole with
    | '.' :: rest => (rest.takeWhile isDigit, rest.dropWhile isDigit)
    | rest => ([], rest)
  let coefficient ← natOfDigits? (whole ++ fraction)
  let power ← match afterFraction with
    | [] => some 0
    | 'e' :: rest => readExponent? rest
    | 'E' :: rest => readExponent? rest
    | _ => none
  some ⟨negative, coefficient, power - fraction.length⟩

/-- The pattern of a decimal text in a format. -/
def DecimalText.bits (format : Format) (decimal : DecimalText) : Nat :=
  format.signed decimal.negative (format.ofDecimal decimal.coefficient decimal.exponent)

/-- The 64-bit number nearest to a decimal text. -/
def DecimalText.toDouble (decimal : DecimalText) : Double := .ofPattern (decimal.bits .double)

/-- The names of values that are not finite, without their sign and in lower case. -/
def readSpecial? (format : Format) (text : List Char) : Option Nat :=
  let (negative, body) := splitSign text
  let name := String.ofList (body.map Char.toLower)
  if name == "inf" || name == "infinity" then some (format.signed negative format.infinityBits)
  else if name == "nan" then some (format.signed negative format.notANumberBits)
  else none

/-- Reads a 32-bit number: a decimal, or the name of an infinity or of no number. -/
def readSingle? (text : List Char) : Option Single :=
  let pattern := match readDecimal? text with
    | some decimal => some (decimal.bits .single)
    | none => readSpecial? .single text
  pattern.map Single.ofPattern

end LiveShader.Number
