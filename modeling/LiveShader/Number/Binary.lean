/-!
# Binary floating-point formats

A bit pattern of one of the two binary formats is read as a sign, a natural
significand and a power of two.  In the other direction a nonnegative ratio of
natural numbers is rounded to the pattern of its nearest neighbour, a tie going
to the even pattern.  Everything is exact natural-number arithmetic, so that
conversions between formats, to integers and from decimal text are all
instances of one rounding function.
-/

namespace LiveShader.Number

/--
A binary format: the number of significand bits, the hidden one included, and
the number of exponent bits.
-/
structure Format where
  precision : Nat
  exponentBits : Nat
  deriving Repr, DecidableEq

namespace Format

/-- The 32-bit format. -/
def single : Format := ⟨24, 8⟩

/-- The 64-bit format. -/
def double : Format := ⟨53, 11⟩

/-- The weight of the hidden bit. -/
def hidden (format : Format) : Nat := Nat.pow 2 (format.precision - 1)

/-- The exponent field that marks infinities and patterns that are not numbers. -/
def topField (format : Format) : Nat := Nat.pow 2 format.exponentBits - 1

/-- The exponent of the last place of the smallest numbers. -/
def minExponent (format : Format) : Int :=
  3 - (Nat.pow 2 (format.exponentBits - 1) : Int) - format.precision

/-- The pattern of positive infinity. -/
def infinityBits (format : Format) : Nat := format.topField * format.hidden

/-- The bit that marks a negative number. -/
def signBit (format : Format) : Nat := Nat.pow 2 (format.precision - 1 + format.exponentBits)

end Format

/-- What a bit pattern stands for. -/
inductive Decoded where
  | notANumber (negative : Bool)
  | infinite (negative : Bool)
  | finite (negative : Bool) (significand : Nat) (exponent : Int)
  deriving Repr, DecidableEq

/-- Reads a bit pattern. -/
def Format.decode (format : Format) (bits : Nat) : Decoded :=
  let magnitude := bits % format.signBit
  let negative := decide (format.signBit ≤ bits)
  let field := magnitude / format.hidden
  let fraction := magnitude % format.hidden
  if field = format.topField then
    if fraction = 0 then .infinite negative else .notANumber negative
  else if field = 0 then
    .finite negative fraction format.minExponent
  else
    .finite negative (format.hidden + fraction) (format.minExponent + (field - 1 : Nat))

/--
The quotient rounded to the nearest natural number, a tie going to the even one.
-/
def roundDivEven (numerator denominator : Nat) : Nat :=
  let quotient := numerator / denominator
  let twice := 2 * (numerator % denominator)
  if twice < denominator then quotient
  else if denominator < twice then quotient + 1
  else quotient + quotient % 2

/--
The quotient of `numerator * 2 ^ -exponent` by `denominator`, rounded to the
nearest natural number.
-/
def scaledRound (numerator denominator : Nat) (exponent : Int) : Nat :=
  match exponent with
  | .ofNat up => roundDivEven numerator (denominator * Nat.pow 2 up)
  | .negSucc down => roundDivEven (numerator * Nat.pow 2 (down + 1)) denominator

/-- Whether `numerator / denominator` reaches `bound * 2 ^ exponent`. -/
def reaches (numerator denominator bound : Nat) (exponent : Int) : Bool :=
  match exponent with
  | .ofNat up => bound * denominator * Nat.pow 2 up ≤ numerator
  | .negSucc down => bound * denominator ≤ numerator * Nat.pow 2 (down + 1)

/--
The pattern of the nonnegative number nearest to `numerator / denominator`.
Ratios past the largest finite number give infinity.
-/
def Format.roundRatio (format : Format) (numerator denominator : Nat) : Nat :=
  if numerator = 0 then 0
  else
    let guess : Int :=
      (numerator.log2 : Int) - denominator.log2 - format.precision
    let fitted :=
      if reaches numerator denominator (Nat.pow 2 format.precision) guess then guess + 1 else guess
    let exponent := max fitted format.minExponent
    let significand := scaledRound numerator denominator exponent
    min ((exponent - format.minExponent).toNat * format.hidden + significand)
      format.infinityBits

/-- A ratio `significand * 2 ^ exponent` as a pair of natural numbers. -/
def binaryRatio (significand : Nat) (exponent : Int) : Nat × Nat :=
  match exponent with
  | .ofNat up => (significand * Nat.pow 2 up, 1)
  | .negSucc down => (significand, Nat.pow 2 (down + 1))

/-- The pattern of one chosen value that is not a number. -/
def Format.notANumberBits (format : Format) : Nat :=
  format.infinityBits + format.hidden / 2

/-- A pattern with the sign set on request. -/
def Format.signed (format : Format) (negative : Bool) (magnitude : Nat) : Nat :=
  (if negative then format.signBit else 0) + magnitude

/-- The pattern of the number nearest to what another pattern stands for. -/
def Format.encode (format : Format) : Decoded → Nat
  | .notANumber negative => format.signed negative format.notANumberBits
  | .infinite negative => format.signed negative format.infinityBits
  | .finite negative significand exponent =>
      let ratio := binaryRatio significand exponent
      format.signed negative (format.roundRatio ratio.1 ratio.2)

/-- A pattern without its sign. -/
def Format.magnitude (format : Format) (bits : Nat) : Nat := bits % format.signBit

/-- Whether a pattern stands for a number, the infinities among them. -/
def Format.isNumber (format : Format) (bits : Nat) : Bool :=
  format.magnitude bits ≤ format.infinityBits

/-- Whether a pattern stands for a finite number. -/
def Format.isFinite (format : Format) (bits : Nat) : Bool :=
  format.magnitude bits < format.infinityBits

/-- The place of a number among the others: patterns grow with the values, the sign aside. -/
def Format.rank (format : Format) (bits : Nat) : Int :=
  if format.signBit ≤ bits then -(format.magnitude bits : Int) else format.magnitude bits

/-- Whether two patterns stand for numbers and the first is the smaller. -/
def Format.less (format : Format) (x y : Nat) : Bool :=
  format.isNumber x && format.isNumber y && format.rank x < format.rank y

/-- Whether two patterns stand for numbers and the first is not the larger. -/
def Format.atMost (format : Format) (x y : Nat) : Bool :=
  format.isNumber x && format.isNumber y && format.rank x ≤ format.rank y

namespace Decoded

/-- The value with the other sign; what is no number stays as it is. -/
def negate : Decoded → Decoded
  | .notANumber negative => .notANumber negative
  | .infinite negative => .infinite (!negative)
  | .finite negative significand exponent => .finite (!negative) significand exponent

/-- A significand moved to a lower power of two, with its sign. -/
def scaledInt (negative : Bool) (significand shift : Nat) : Int :=
  let scaled : Int := (significand * Nat.pow 2 shift : Nat)
  if negative then -scaled else scaled

/-- The exact sum.  A zero is negative only if both parts are. -/
def add : Decoded → Decoded → Decoded
  | .notANumber negative, _ => .notANumber negative
  | _, .notANumber negative => .notANumber negative
  | .infinite negative, .infinite negative' =>
      if negative = negative' then .infinite negative else .notANumber true
  | .infinite negative, .finite .. => .infinite negative
  | .finite .., .infinite negative => .infinite negative
  | .finite negative significand exponent, .finite negative' significand' exponent' =>
      let low := min exponent exponent'
      let sum :=
        scaledInt negative significand (exponent - low).toNat +
          scaledInt negative' significand' (exponent' - low).toNat
      .finite (decide (sum < 0) || (sum == 0 && negative && negative')) sum.natAbs low

/-- The pattern of the number nearest to a quotient. -/
def quotientBits (format : Format) : Decoded → Decoded → Nat
  | .notANumber negative, _ => format.signed negative format.notANumberBits
  | _, .notANumber negative => format.signed negative format.notANumberBits
  | .infinite _, .infinite _ => format.signed true format.notANumberBits
  | .infinite negative, .finite negative' _ _ =>
      format.signed (negative != negative') format.infinityBits
  | .finite negative _ _, .infinite negative' => format.signed (negative != negative') 0
  | .finite negative significand exponent, .finite negative' significand' exponent' =>
      if significand' = 0 then
        if significand = 0 then format.signed true format.notANumberBits
        else format.signed (negative != negative') format.infinityBits
      else
        let ratio := binaryRatio significand exponent
        let ratio' := binaryRatio significand' exponent'
        format.signed (negative != negative')
          (format.roundRatio (ratio.1 * ratio'.2) (ratio.2 * ratio'.1))

/-- The integer part, the fraction cut off; a value that is no number counts as zero. -/
def truncate (low high : Int) : Decoded → Int
  | .notANumber _ => 0
  | .infinite negative => if negative then low else high
  | .finite negative significand exponent =>
      let ratio := binaryRatio significand exponent
      let whole : Int := (ratio.1 / ratio.2 : Nat)
      max low (min high (if negative then -whole else whole))

/-- The nearest integer, a tie going away from zero, kept within two limits. -/
def roundAway (low high : Int) : Decoded → Int
  | .notANumber _ => 0
  | .infinite negative => if negative then low else high
  | .finite negative significand exponent =>
      let ratio := binaryRatio significand exponent
      let whole : Int := ((2 * ratio.1 + ratio.2) / (2 * ratio.2) : Nat)
      max low (min high (if negative then -whole else whole))

/-- Whether the value is a finite number without a fraction. -/
def isIntegral : Decoded → Bool
  | .finite _ significand exponent =>
      let ratio := binaryRatio significand exponent
      ratio.1 % ratio.2 == 0
  | _ => false

end Decoded

/-- A 32-bit number, given by its pattern. -/
structure Single where
  bits : UInt32
  deriving Repr, DecidableEq

/-- A 64-bit number, given by its pattern. -/
structure Double where
  bits : UInt64
  deriving Repr, DecidableEq

/-- The 32-bit number of a pattern. -/
def Single.ofPattern (pattern : Nat) : Single := ⟨pattern.toUInt32⟩

/-- The 64-bit number of a pattern. -/
def Double.ofPattern (pattern : Nat) : Double := ⟨pattern.toUInt64⟩

/-- The pattern of a 32-bit number. -/
def Single.pattern (value : Single) : Nat := value.bits.toNat

/-- The pattern of a 64-bit number. -/
def Double.pattern (value : Double) : Nat := value.bits.toNat

/-- What a 32-bit number stands for. -/
def decodeSingle (value : Single) : Decoded := Format.single.decode value.pattern

/-- What a 64-bit number stands for. -/
def decodeDouble (value : Double) : Decoded := Format.double.decode value.pattern

/-- The 32-bit number nearest to a decoded value. -/
def Decoded.toSingle (value : Decoded) : Single := .ofPattern (Format.single.encode value)

/-- The 64-bit number nearest to a decoded value. -/
def Decoded.toDouble (value : Decoded) : Double := .ofPattern (Format.double.encode value)

namespace Single

/-- Whether the value is a number, an infinity included. -/
def isNumber (value : Single) : Bool := Format.single.isNumber value.pattern

/-- Whether the value is a finite number. -/
def isFinite (value : Single) : Bool := Format.single.isFinite value.pattern

/-- Whether the value is one of the two zeros. -/
def isZero (value : Single) : Bool := Format.single.magnitude value.pattern == 0

/-- The number without its sign. -/
def magnitude (value : Single) : Single := .ofPattern (Format.single.magnitude value.pattern)

/-- The number nearest to a sum. -/
def add (x y : Single) : Single := ((decodeSingle x).add (decodeSingle y)).toSingle

/-- The number nearest to a difference. -/
def sub (x y : Single) : Single := ((decodeSingle x).add (decodeSingle y).negate).toSingle

/-- The number nearest to a quotient. -/
def div (x y : Single) : Single :=
  .ofPattern ((decodeSingle x).quotientBits .single (decodeSingle y))

instance : Add Single := ⟨add⟩
instance : Sub Single := ⟨sub⟩
instance : Div Single := ⟨div⟩
instance : LT Single := ⟨fun x y => Format.single.less x.pattern y.pattern = true⟩
instance : LE Single := ⟨fun x y => Format.single.atMost x.pattern y.pattern = true⟩
instance (x y : Single) : Decidable (x < y) := inferInstanceAs (Decidable (_ = true))
instance (x y : Single) : Decidable (x ≤ y) := inferInstanceAs (Decidable (_ = true))

end Single

namespace Double

/-- Whether the value is a number, an infinity included. -/
def isNumber (value : Double) : Bool := Format.double.isNumber value.pattern

/-- Whether the value is a finite number. -/
def isFinite (value : Double) : Bool := Format.double.isFinite value.pattern

instance : LT Double := ⟨fun x y => Format.double.less x.pattern y.pattern = true⟩
instance : LE Double := ⟨fun x y => Format.double.atMost x.pattern y.pattern = true⟩
instance (x y : Double) : Decidable (x < y) := inferInstanceAs (Decidable (_ = true))
instance (x y : Double) : Decidable (x ≤ y) := inferInstanceAs (Decidable (_ = true))

end Double

/-- An integer as a decoded value; zero is positive. -/
def decodedInt (value : Int) : Decoded := .finite (decide (value < 0)) value.natAbs 0

/-- The 32-bit number nearest to an integer. -/
def singleOfInt (value : Int) : Single := (decodedInt value).toSingle

/-- The 64-bit number nearest to an integer. -/
def doubleOfInt (value : Int) : Double := (decodedInt value).toDouble

/-- The 32-bit number nearest to a 64-bit one. -/
def singleOfDouble (value : Double) : Single := (decodeDouble value).toSingle

/--
Keeps a 32-bit number between two limits.  A value that is not a number stays
what it is.
-/
def clampSingle (value low high : Single) : Single :=
  if value < low then low else if high < value then high else value

/-- The lowest 32-bit signed integer. -/
def minInt32 : Int := -2147483648

/-- The highest 32-bit signed integer. -/
def maxInt32 : Int := 2147483647

/-- Keeps an integer between two limits. -/
def clampInt (value low high : Int) : Int := max low (min high value)

end LiveShader.Number
