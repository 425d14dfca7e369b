/-!
# Words that are much alike

Two words are compared by the characters that they share at nearby places, and by
how many of those stand in another order.  The measure lies between zero and one;
from seven tenths on the words are much alike.
-/

namespace LiveShader.Text

/-- How far apart two places may be to count as nearby. -/
def reach (first second : List Char) : Nat := max first.length second.length / 2 - 1

/-- A character of a word and whether it is matched already. -/
structure Letter where
  char : Char
  isMatched : Bool

/-- Marks the first unmatched letter from `index` on that fits; says whether one did. -/
def markFirst (c : Char) (isNear : Nat → Bool) : Nat → List Letter → Bool × List Letter
  | _, [] => (false, [])
  | index, letter :: rest =>
      if letter.char = c ∧ !letter.isMatched ∧ isNear index then
        (true, { letter with isMatched := true } :: rest)
      else
        let (isFound, marked) := markFirst c isNear (index + 1) rest
        (isFound, letter :: marked)

/-- The matched characters of a word in order, and the other word with its marks. -/
def matchLetters (reach : Nat) : Nat → List Char → List Letter → List Char × List Letter
  | _, [], other => ([], other)
  | index, c :: rest, other =>
      let isNear place := decide (place ≤ index + reach ∧ index ≤ place + reach)
      let (isFound, other) := markFirst c isNear 0 other
      let (matched, other) := matchLetters reach (index + 1) rest other
      (if isFound then c :: matched else matched, other)

/-- The number of places at which two lists of the same length differ. -/
def differences (first second : List Char) : Nat :=
  (first.zip second).countP fun pair => pair.1 != pair.2

/--
Whether two words are much alike.  With `m` shared characters of which `t` pairs
stand in another order, the measure is the mean of `m / a`, `m / b` and
`(m - t) / m` for words of `a` and `b` characters.
-/
def isAlike (first second : String) : Bool :=
  let a := first.toList
  let b := second.toList
  let (matched, other) := matchLetters (reach a b) 0 a (b.map fun c => ⟨c, false⟩)
  let m := matched.length
  let t := differences matched ((other.filter Letter.isMatched).map Letter.char) / 2
  0 < m &&
    decide (21 * a.length * b.length * m ≤
      10 * (m * m * b.length + m * m * a.length + (m - t) * a.length * b.length))

end LiveShader.Text
