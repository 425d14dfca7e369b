import LiveShader.Source.Translation
import LiveShader.Text.Cut

/-!
# Rehearsed faults of a stage

No compiler looks at a stage here.  Faults are rehearsed by marks in the translated
text: a mark, one blank and the message.  Messages that carry a position are
reported at the user's line, if the mark stands on one.
-/

namespace LiveShader.Gpu

open LiveShader.Source

/-- What follows a mark and a blank on a line, if the mark is there. -/
def marked? (mark : String) (line : List Char) : Option String :=
  (Text.cutAt? (mark ++ " ").toList line).map fun parts => String.ofList (Text.trim parts.2)

/-- A message with the user's line in front, if there is one. -/
def located (origin : Option Origin) (message : String) : String :=
  match origin with
  | some place => place.label ++ ": " ++ message
  | none => message

/-- The causes of a fault, which bars separate in its text. -/
def causes (text : String) : String :=
  Text.joinWith ": " ((Text.pieces (· == '|') text.toList).map String.ofList)

/-- A line of a translated stage. -/
structure TranslatedLine where
  text : List Char
  origin : Option Origin

/-- The lines of a translated stage with their origins. -/
def translatedLines (translation : Translation) : List TranslatedLine :=
  (translation.preamble ++ translation.body ++ translation.entry).zipIdx.map
    fun (text, index) => ⟨text, translation.origin? (index + 1)⟩

/-- The parse errors of a line. -/
def parseErrors (line : TranslatedLine) : List String :=
  ((marked? "@parse" line.text).map (located line.origin)).toList ++
    (marked? "@parse-nowhere" line.text).toList

/-- The first validation error, one with a position before one without. -/
def validationError? (lines : List TranslatedLine) : Option String :=
  (lines.findSome? fun line =>
      (marked? "@invalid" line.text).map fun text => located line.origin (causes text)).or
    (lines.findSome? fun line => (marked? "@invalid-nowhere" line.text).map causes)

/-- What is wrong with a translated stage: all its parse errors, or else one of its rules. -/
def inspectionError? (translation : Translation) : Option String :=
  let lines := translatedLines translation
  match lines.flatMap parseErrors with
  | [] => validationError? lines
  | errors => some (Text.joinWith "\n" errors)

/-- The first message that follows a mark in a translated stage. -/
def firstMarked? (mark : String) (translation : Translation) : Option String :=
  (translatedLines translation).findSome? fun line => marked? mark line.text

end LiveShader.Gpu
