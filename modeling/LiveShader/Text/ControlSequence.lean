/-!
# Text without control sequences

A terminal takes some characters as instructions: single controls, and sequences
that an escape character opens.  Text that does not go to a terminal is written
without them.
-/

namespace LiveShader.Text

/-- Where in a control sequence a reader stands. -/
inductive SequencePlace where
  /-- Outside of every sequence. -/
  | outside
  /-- After the escape character. -/
  | opened
  /-- After the escape character and a mark. -/
  | marked
  /-- In a command, which its first letter ends. -/
  | command
  /-- At the start of a command to the device. -/
  | device
  /-- In the numbers of a command to the device. -/
  | deviceNumbers
  /-- In the marks of a command to the device. -/
  | deviceMarks
  /-- In a text that only its own end character ends. -/
  | message
  /-- In a text for the system, which a bell ends. -/
  | system
  deriving Repr, DecidableEq

/-- Whether the number of a character lies between two others. -/
def isWithin (low high : Nat) (c : Char) : Bool := low ≤ c.toNat && c.toNat ≤ high

/-- Whether a character ends a message: one byte of its encoding is the end mark. -/
def endsMessage (c : Char) : Bool := (String.singleton c).toUTF8.toList.contains 0x9c

/-- Whether a character is a tab or a break of a line or page. -/
def isLayout (c : Char) : Bool := c = '\t' || c = '\n' || c = '\x0c' || c = '\r'

/-- Whether a character is seen outside of a sequence. -/
def isVisible (c : Char) : Bool := isLayout c || (0x20 ≤ c.toNat && c.toNat != 0x7f)

/-- Where the character after the escape character leads. -/
def placeOpenedBy (c : Char) : SequencePlace :=
  if isWithin 0x20 0x2f c then .marked
  else if c = '[' then .command
  else if c = ']' then .system
  else if c = 'P' then .device
  else if c = 'X' || c = '^' || c = '_' then .message
  else if isWithin 0x30 0x7e c then .outside
  else .opened

/-- Where a reader stands after a character that it does not show. -/
def SequencePlace.after (place : SequencePlace) (c : Char) : SequencePlace :=
  if c = '\x1b' then .opened
  else if c = '\x18' || c = '\x1a' then .outside
  else
    match place with
    | .outside => .outside
    | .opened => placeOpenedBy c
    | .marked => if isWithin 0x30 0x7e c then .outside else .marked
    | .command => if isWithin 0x40 0x7e c then .outside else .command
    | .device =>
        if isWithin 0x20 0x2f c then .deviceMarks
        else if isWithin 0x30 0x3f c then .deviceNumbers
        else if isWithin 0x40 0x7e c then .message
        else .device
    | .deviceNumbers =>
        if isWithin 0x20 0x2f c then .deviceMarks
        else if isWithin 0x3c 0x7e c then .message
        else .deviceNumbers
    | .deviceMarks => if isWithin 0x30 0x7e c then .message else .deviceMarks
    | .message => if endsMessage c then .outside else .message
    | .system => if c = '\x07' then .outside else .system

/-- Whether a character is shown at a place. -/
def SequencePlace.shows (place : SequencePlace) (c : Char) : Bool :=
  match place with
  | .outside => isVisible c
  | .opened | .marked | .command => isLayout c
  | _ => false

/--
What a reader of text keeps.  A line break inside a command is shown, and so is what
follows it up to the next control; only there the command goes on.
-/
structure SequenceReader where
  place : SequencePlace
  /-- Whether the character before was shown. -/
  isShowing : Bool
  deriving Repr, DecidableEq

namespace SequenceReader

/-- A reader before the first character. -/
def start : SequenceReader := ⟨.outside, false⟩

/-- Whether the reader shows the next character. -/
def shows (reader : SequenceReader) (c : Char) : Bool :=
  (reader.isShowing && isVisible c) || reader.place.shows c

/-- The reader after a character. -/
def after (reader : SequenceReader) (c : Char) : SequenceReader :=
  if reader.shows c then ⟨if c.toNat < 0x80 then reader.place else .outside, true⟩
  else ⟨reader.place.after c, false⟩

/-- The characters that are shown. -/
def shown : SequenceReader → List Char → List Char
  | _, [] => []
  | reader, c :: rest =>
      if reader.shows c then c :: shown (reader.after c) rest else shown (reader.after c) rest

end SequenceReader

/-- A text without its controls and control sequences. -/
def withoutControls (text : String) : String :=
  String.ofList (SequenceReader.start.shown text.toList)

end LiveShader.Text
