/-!
# Cutting texts

A leading text can be taken off, and a text can be cut around the first
occurrence of another one or of a separator, or at a place that is given in bytes.
-/

namespace LiveShader.Text

/-- What follows `lead` in a text that begins with it. -/
def after? : List Char → List Char → Option (List Char)
  | [], text => some text
  | _ :: _, [] => none
  | l :: lead, c :: text => if l = c then after? lead text else none

/-- Whether a text begins with another one. -/
def startsWith (text lead : List Char) : Bool := (after? lead text).isSome

/-- Whether a text ends with another one. -/
def endsWith (text tail : List Char) : Bool := startsWith text.reverse tail.reverse

/-- The parts of a text before and after the first occurrence of `mark`. -/
def cutAt? (mark : List Char) : List Char → Option (List Char × List Char)
  | [] => if mark.isEmpty then some ([], []) else none
  | c :: text =>
      match after? mark (c :: text) with
      | some rest => some ([], rest)
      | none => (cutAt? mark text).map fun parts => (c :: parts.1, parts.2)

/-- The parts of a text around its first separator. -/
def cutOn? (isSeparator : Char → Bool) : List Char → Option (List Char × List Char)
  | [] => none
  | c :: text =>
      if isSeparator c then some ([], text)
      else (cutOn? isSeparator text).map fun parts => (c :: parts.1, parts.2)

/-- The number of bytes of a text. -/
def byteCount : List Char → Nat
  | [] => 0
  | c :: text => c.utf8Size + byteCount text

/--
The parts of a text before and behind its first bytes.  There are none if the text has fewer
bytes, or if these end inside a character.
-/
def cutBytes? : Nat → List Char → Option (List Char × List Char)
  | 0, text => some ([], text)
  | _ + 1, [] => none
  | count + 1, c :: text =>
      if c.utf8Size ≤ count + 1 then
        (cutBytes? (count + 1 - c.utf8Size) text).map fun parts => (c :: parts.1, parts.2)
      else none

/-- The part of a text between two places that are given in bytes. -/
def slice? (text : List Char) (start stop : Nat) : Option (List Char) := do
  let (_, rest) ← cutBytes? start text
  let (part, _) ← cutBytes? (stop - start) rest
  some part

/-- The texts of a list with a separator between neighbours. -/
def joinWith (separator : String) (texts : List String) : String :=
  String.intercalate separator texts

end LiveShader.Text
