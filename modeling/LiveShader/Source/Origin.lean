import LiveShader.Number.Overflow
import LiveShader.Number.Reading
import LiveShader.Text.Blank
import LiveShader.Text.Cut
import LiveShader.Text.Lines

/-!
# Where the lines of a combined source come from

A combined source names the file and line of what follows by directives
`#line N` and `#line N F`.  Every other line belongs to the file in force, with a
number one above that of the line before it.  Numbers are 32-bit words.  Every such line
advances the count, the last one too, and behind the last number it does not go on: then the
lines of the source have no origins at all.
-/

namespace LiveShader.Source

/-- The file and line in which a line was written. -/
structure Origin where
  file : UInt32
  line : UInt32
  deriving Repr, DecidableEq

namespace Origin

/-- The origin of the first line of a source. -/
def start : Origin := ⟨0, 1⟩

/-- The origin of the line after this one; the last number has none behind it. -/
def next? (origin : Origin) : Option Origin :=
  (Number.succ? origin.line).map fun line => { origin with line := line }

/-- The words after `#line` at the front of a line, blanks before it aside. -/
def directiveWords? (line : List Char) : Option (List (List Char)) :=
  (Text.after? "#line".toList (Text.trimStart line)).map Text.words

/-- A word as a 32-bit number. -/
def number? (word : List Char) : Option UInt32 :=
  (Number.readUInt32? word).map Nat.toUInt32

/--
The origin that a directive gives to the line after it; nothing when the line is
no directive.  Without a second number the file in force stays.
-/
def directive? (line : List Char) (file : UInt32) : Option Origin :=
  match directiveWords? line with
  | some [first] => (number? first).map fun number => ⟨file, number⟩
  | some (first :: second :: _) =>
      match number? first, number? second with
      | some number, some other => some ⟨other, number⟩
      | _, _ => none
  | _ => none

/--
The origin of each line, given that of the first; directives have none.  Nothing when the
count does not go on behind some line.
-/
def ofLinesFrom (current : Origin) : List (List Char) → Option (List (Option Origin))
  | [] => some []
  | line :: rest =>
      match directive? line current.file with
      | some next => (ofLinesFrom next rest).map (none :: ·)
      | none => current.next?.bind fun next => (ofLinesFrom next rest).map (some current :: ·)

/-- The origin of each line of a source, if its lines can be counted. -/
def ofSource (source : List Char) : Option (List (Option Origin)) :=
  ofLinesFrom start (Text.lines source)

/-- An origin as file and line. -/
def label (origin : Origin) : String :=
  toString origin.file.toNat ++ ":" ++ toString origin.line.toNat

/-- An origin as a line alone. -/
def lineLabel (origin : Origin) : String := toString origin.line.toNat

end Origin

end LiveShader.Source
