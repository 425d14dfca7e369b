import LiveShader.Text.Shown

/-!
# Quoted text

Quoted text stands between double quotes.  Quotes and backslashes get a
backslash, a few controls have a letter of their own, and every other character
that is not shown as itself is written by its number.
-/

namespace LiveShader.Text

/-- The digits of a number in base sixteen, in lower case. -/
def hexDigits (value : Nat) : String := String.ofList (Nat.toDigits 16 value)

/-- The digits of a number in base sixteen, with zeros in front up to a width. -/
def hexPadded (width value : Nat) : String :=
  let digits := Nat.toDigits 16 value
  String.ofList (List.replicate (width - digits.length) '0' ++ digits)

/-- How one character appears between quotes. -/
def quotedChar (c : Char) : String :=
  if c = '\x00' then "\\0"
  else if c = '\t' then "\\t"
  else if c = '\n' then "\\n"
  else if c = '\r' then "\\r"
  else if c = '"' then "\\\""
  else if c = '\\' then "\\\\"
  else if isShown c then String.singleton c
  else "\\u\x7b" ++ hexDigits c.toNat ++ "\x7d"

/-- A text between quotes. -/
def quoted (text : String) : String :=
  "\"" ++ String.join (text.toList.map quotedChar) ++ "\""

end LiveShader.Text
