import LiveShader.Number.Shortest

/-!
# Numbers as text

Three ways of writing a number share one table of choices: when an exponent is
used, how it is marked, and whether a whole number keeps `.0`.  A fourth way
writes a fixed number of places.
-/

namespace LiveShader.Number

/-- The choices of one way to write numbers. -/
structure WritingStyle where
  /-- Powers of ten from this one on use an exponent. -/
  exponentFrom : Option Int
  /-- Powers of ten below this one use an exponent. -/
  exponentBelow : Option Int
  /-- Whether a whole number ends in `.0`. -/
  keepsPoint : Bool
  /-- Whether a positive exponent carries a sign. -/
  signsExponent : Bool
  /-- The text of a value that is not a number. -/
  notANumber : String
  /-- The text of positive infinity; the negative one has a minus sign in front. -/
  infinite : String
  tie : Tie

/-- Messages and labels write every digit and never an exponent. -/
def plainStyle : WritingStyle :=
  ⟨none, none, false, false, "NaN", "inf", .up⟩

/-- Quoted values keep the point and use exponents outside `1e-4` to `1e16`. -/
def quotedStyle : WritingStyle :=
  ⟨some 16, some (-4), true, false, "NaN", "inf", .up⟩

/-- Data files keep the point and sign every exponent outside `1e-5` to `1e16`. -/
def dataStyle : WritingStyle :=
  ⟨some 16, some (-5), true, true, "null", "null", .toEven⟩

/-- A run of zeros. -/
def zeros (count : Nat) : String := String.ofList (List.replicate count '0')

/-- The digits of a decimal with a point placed by its exponent. -/
def positional (keepsPoint : Bool) (decimal : Decimal) : String :=
  let digits := Nat.toDigits 10 decimal.coefficient
  match decimal.exponent with
  | .ofNat up =>
      String.ofList digits ++ zeros up ++ (if keepsPoint then ".0" else "")
  | .negSucc down =>
      let places := down + 1
      if places < digits.length then
        String.ofList (digits.take (digits.length - places)) ++ "." ++
          String.ofList (digits.drop (digits.length - places))
      else
        "0." ++ zeros (places - digits.length) ++ String.ofList digits

/-- One digit, the other digits after a point, and the power of ten. -/
def scientific (signsExponent : Bool) (decimal : Decimal) : String :=
  let digits := Nat.toDigits 10 decimal.coefficient
  let power := decimal.exponent + (digits.length - 1 : Nat)
  let mantissa :=
    match digits with
    | [] => ""
    | [digit] => String.singleton digit
    | digit :: rest => String.singleton digit ++ "." ++ String.ofList rest
  let sign := if power < 0 then "-" else if signsExponent then "+" else ""
  mantissa ++ "e" ++ sign ++ toString power.natAbs

/-- Writes a positive decimal. -/
def WritingStyle.writeDecimal (choices : WritingStyle) (decimal : Decimal) : String :=
  let power := decimal.exponent + (digitCount decimal.coefficient - 1 : Nat)
  let high := match choices.exponentFrom with
    | some limit => decide (limit ≤ power)
    | none => false
  let low := match choices.exponentBelow with
    | some limit => decide (power < limit)
    | none => false
  if high || low then scientific choices.signsExponent decimal
  else positional choices.keepsPoint decimal

/-- Writes what a bit pattern of a format stands for. -/
def WritingStyle.write (choices : WritingStyle) (format : Format) : Decoded → String
  | .notANumber _ => choices.notANumber
  | .infinite negative =>
      if choices.infinite == choices.notANumber then choices.infinite
      else (if negative then "-" else "") ++ choices.infinite
  | .finite negative significand exponent =>
      let sign := if negative then "-" else ""
      if significand = 0 then sign ++ (if choices.keepsPoint then "0.0" else "0")
      else sign ++ choices.writeDecimal (shortest format choices.tie significand exponent)

/-- Writes a 64-bit number. -/
def WritingStyle.writeDouble (choices : WritingStyle) (value : Double) : String :=
  choices.write .double (decodeDouble value)

/-- Writes a 32-bit number. -/
def WritingStyle.writeSingle (choices : WritingStyle) (value : Single) : String :=
  choices.write .single (decodeSingle value)

/-- A natural number with zeros in front up to a width. -/
def padded (width value : Nat) : String :=
  let digits := Nat.toDigits 10 value
  String.ofList (List.replicate (width - digits.length) '0' ++ digits)

/-- A number with a fixed count of places, at least one; a tie goes to the even digit. -/
def fixedPlaces (places : Nat) : Decoded → String
  | .notANumber _ => "NaN"
  | .infinite negative => if negative then "-inf" else "inf"
  | .finite negative significand exponent =>
      let ratio := binaryRatio significand exponent
      let scaled := roundDivEven (ratio.1 * Nat.pow 10 places) ratio.2
      let unit := Nat.pow 10 places
      (if negative then "-" else "") ++ toString (scaled / unit) ++ "." ++
        padded places (scaled % unit)

end LiveShader.Number
