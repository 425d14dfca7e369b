import LiveShader.Number.Reading
import LiveShader.Text.Cut

/-!
# Colours written in hexadecimal

A colour is three or six hexadecimal digits, with or without a number sign in
front.  Each channel is a byte and is uploaded as its share of 255; with three
digits each digit stands for a doubled one.
-/

namespace LiveShader.Control

/-- The channels of a colour as bytes. -/
structure Color where
  red : Nat
  green : Nat
  blue : Nat
  deriving Repr, DecidableEq

namespace Color

/-- The digits of a colour text, without the number sign in front. -/
def digits (text : List Char) : List Char :=
  match text with
  | '#' :: rest => rest
  | _ => text

/-- Whether a character is a hexadecimal digit. -/
def isHexDigit (c : Char) : Bool := (Number.hexDigit? c).isSome

/-- The digits of the three channels, two for each; three digits are doubled. -/
def expand? (digits : List Char) : Option (List Char) :=
  match Text.byteCount digits with
  | 3 => some (digits.flatMap fun c => [c, c])
  | 6 => some digits
  | _ => none

/-- Why no colour was read. -/
inductive Fault where
  | notColor
  /-- Two digits were asked for that do not stand between characters of the text. -/
  | badSlice
  deriving Repr, DecidableEq

/-- Reads one of the three channels from its two digits. -/
def readChannel (expanded : List Char) (index : Nat) : Except Fault Nat :=
  match Text.slice? expanded (2 * index) (2 * index + 2) with
  | none => .error .badSlice
  | some pair =>
      match Number.readHexByte? pair with
      | none => .error .notColor
      | some byte => .ok byte

/-- Reads the three channels from their digits. -/
def readChannels (expanded : List Char) : Except Fault Color := do
  let red ← readChannel expanded 0
  let green ← readChannel expanded 1
  let blue ← readChannel expanded 2
  .ok ⟨red, green, blue⟩

/-- Reads a colour, or says why there is none. -/
def read (text : String) : Except Fault Color :=
  let found := digits text.toList
  if found.all isHexDigit then
    match expand? found with
    | none => .error .notColor
    | some expanded => readChannels expanded
  else .error .notColor

/-- Reads a colour. -/
def parse? (text : String) : Option Color := (read text).toOption

/--
Whether a text has the form of a colour, by its length and its characters alone.
-/
def isWellFormed (text : String) : Bool :=
  let found := digits text.toList
  let length := Text.byteCount found
  (length == 3 || length == 6) && found.all isHexDigit

/-- The share of 255 of a byte. -/
def channel (byte : Nat) : Number.Single := Number.singleOfInt byte / Number.singleOfInt 255

/-- The three channels in the unit interval. -/
def channels (color : Color) : Number.Single × Number.Single × Number.Single :=
  (channel color.red, channel color.green, channel color.blue)

end Color

end LiveShader.Control
