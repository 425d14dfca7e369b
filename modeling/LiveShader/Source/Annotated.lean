import LiveShader.Source.Origin

/-!
# A source with its line numbers

Every line gets the number of its origin in front, all numbers in one column.
Once a line comes from a file other than the first, each number is preceded by its
file.  A source whose lines cannot be counted has no such rows.
-/

namespace LiveShader.Source

/-- Whether some line comes from a file other than the first. -/
def hasSeveralFiles (origins : List (Option Origin)) : Bool :=
  origins.any fun origin =>
    match origin with
    | some found => found.file != 0
    | none => false

/-- What stands in front of a line; directives have nothing. -/
def annotationLabel (severalFiles : Bool) : Option Origin → String
  | none => ""
  | some origin => if severalFiles then origin.label else origin.lineLabel

/-- A text at the right end of a column. -/
def alignRight (width : Nat) (text : String) : String :=
  String.ofList (List.replicate (width - text.length) ' ') ++ text

/-- The widest of some labels. -/
def labelWidth (labels : List String) : Nat :=
  labels.foldl (fun width label => max width label.length) 0

/-- The annotated lines of a source whose lines have these origins. -/
def annotatedLines (origins : List (Option Origin)) (source : List Char) : List (List Char) :=
  let labels := origins.map (annotationLabel (hasSeveralFiles origins))
  let width := labelWidth labels
  (labels.zip (Text.lines source)).map fun (label, line) =>
    (alignRight width label).toList ++ " | ".toList ++ line

/-- A source with the number of every line in front of it, if its lines can be counted. -/
def annotate (source : String) : Option String :=
  (Origin.ofSource source.toList).map fun origins =>
    String.ofList (Text.unlines (annotatedLines origins source.toList))

end LiveShader.Source
