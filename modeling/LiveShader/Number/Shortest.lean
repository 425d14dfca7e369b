import LiveShader.Number.Binary

/-!
# The shortest decimal that reads back

Every finite number owns an interval of reals that round to it.  The digits
chosen here are the fewest with which some decimal falls into that interval,
and among those the decimal nearest to the number.  A tie between two equally
near decimals is settled by the caller's choice.
-/

namespace LiveShader.Number

/-- Where a decimal exactly between two candidates goes. -/
inductive Tie where
  | up
  | toEven
  deriving Repr, DecidableEq

/-- A decimal number `coefficient * 10 ^ exponent`. -/
structure Decimal where
  coefficient : Nat
  exponent : Int
  deriving Repr, DecidableEq

/-- The interval of reals that round to a number, over one common denominator. -/
structure Interval where
  low : Nat
  value : Nat
  high : Nat
  denominator : Nat
  closed : Bool
  deriving Repr

namespace Interval

/--
The interval of `significand * 2 ^ exponent`.  Below a power of two the
neighbour is half as far away; the ends belong to the interval when the
significand is even.
-/
def ofBinary (format : Format) (significand : Nat) (exponent : Int) : Interval :=
  let narrow := decide (significand = format.hidden ∧ format.minExponent < exponent)
  let ratio := binaryRatio 1 exponent
  { low := (if narrow then 4 * significand - 1 else 4 * significand - 2) * ratio.1
    value := 4 * significand * ratio.1
    high := (4 * significand + 2) * ratio.1
    denominator := 4 * ratio.2
    closed := significand % 2 == 0 }

/-- Whether `numerator / denominator` lies in the interval. -/
def contains (interval : Interval) (numerator denominator : Nat) : Bool :=
  let scaled := numerator * interval.denominator
  let low := interval.low * denominator
  let high := interval.high * denominator
  if interval.closed then low ≤ scaled && scaled ≤ high else low < scaled && scaled < high

end Interval

/-- The number of decimal digits of a natural number; zero has one. -/
def digitCount (value : Nat) : Nat := (Nat.toDigits 10 value).length

/--
The power `k` of ten with `10 ^ (k - 1) ≤ numerator / denominator < 10 ^ k`, for
a positive ratio.
-/
def decimalMagnitude (numerator denominator : Nat) : Int :=
  if denominator ≤ numerator then
    digitCount (numerator / denominator)
  else
    let zeros := digitCount (denominator / numerator) - 1
    if denominator ≤ numerator * Nat.pow 10 zeros then 1 - (zeros : Int)
    else -(zeros : Int)

/-- A power of ten as a ratio. -/
def powerOfTen (exponent : Int) : Nat × Nat :=
  match exponent with
  | .ofNat up => (Nat.pow 10 up, 1)
  | .negSucc down => (1, Nat.pow 10 (down + 1))

/--
The decimal of the grid `10 ^ exponent` that lies in the interval and is nearest
to its number, if there is one.
-/
def Interval.onGrid (interval : Interval) (tie : Tie) (exponent : Int) : Option Decimal :=
  let unit := powerOfTen exponent
  let numerator := interval.value * unit.2
  let denominator := interval.denominator * unit.1
  let below := numerator / denominator
  let inside (coefficient : Nat) : Bool :=
    interval.contains (coefficient * unit.1) unit.2
  let remainder := numerator % denominator
  let preferBelow :=
    if 2 * remainder < denominator then true
    else if denominator < 2 * remainder then false
    else
      match tie with
      | .up => false
      | .toEven => below % 2 == 0
  let first := if preferBelow then below else below + 1
  let second := if preferBelow then below + 1 else below
  if first ≠ 0 ∧ inside first then some ⟨first, exponent⟩
  else if second ≠ 0 ∧ inside second then some ⟨second, exponent⟩
  else none

/-- Tries grids of more and more digits, at most `fuel` of them. -/
def Interval.shortestFrom (interval : Interval) (tie : Tie) (exponent : Int) :
    Nat → Decimal
  | 0 => ⟨0, 0⟩
  | fuel + 1 =>
      match interval.onGrid tie exponent with
      | some decimal => decimal
      | none => interval.shortestFrom tie (exponent - 1) fuel

/-- Drops the zeros at the end of the coefficient. -/
def Decimal.normalize (decimal : Decimal) : Decimal :=
  let digits := (Nat.toDigits 10 decimal.coefficient).reverse
  let zeros := (digits.takeWhile (· == '0')).length
  ⟨decimal.coefficient / Nat.pow 10 zeros, decimal.exponent + zeros⟩

/--
The shortest decimal that reads back as `significand * 2 ^ exponent`.  Seventeen
digits always suffice, so the search ends within twenty grids.
-/
def shortest (format : Format) (tie : Tie) (significand : Nat) (exponent : Int) : Decimal :=
  let interval := Interval.ofBinary format significand exponent
  let magnitude := decimalMagnitude interval.value interval.denominator
  (interval.shortestFrom tie (magnitude - 1) 20).normalize

end LiveShader.Number
