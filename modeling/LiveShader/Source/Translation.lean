import LiveShader.Source.Comment
import LiveShader.Source.Origin
import LiveShader.Uniform.Layout

/-!
# Translating a stage for the graphics device

A stage is translated line by line.  Statements that the device does not take are
dropped, but their lines stay, so every line of the user stands a fixed number of
lines further down.  Loose uniforms of the fragment stage are gathered into one
block, which the lines in front of the user's text declare.
-/

namespace LiveShader.Source

/-- What becomes of a line. -/
inductive Rewrite where
  | keep
  /-- The code goes; the given comment marks stay. -/
  | blank (edges : List Char)
  /-- The given text comes in front, in place of the blanks there. -/
  | lead (text : List Char)
  deriving Repr, DecidableEq

/-- The line that takes the place of another. -/
def Rewrite.apply (line : List Char) : Rewrite → List Char
  | .keep => line
  | .blank edges => edges
  | .lead text => text ++ Text.trimStart line

/-- A translated stage, by lines. -/
structure Translation where
  /-- The lines in front of the user's text. -/
  preamble : List (List Char)
  /-- One line for each line of the user. -/
  body : List (List Char)
  /-- The lines after the user's text. -/
  entry : List (List Char)
  layout : Uniform.Layout
  /-- The origin of each line of the user. -/
  origins : List (Option Origin)

namespace Translation

/-- The translated text. -/
def text (translation : Translation) : List Char :=
  Text.unlines (translation.preamble ++ translation.body ++ translation.entry)

/-- The origin of a line of the translated text, counted from one. -/
def origin? (translation : Translation) (number : Nat) : Option Origin :=
  let skipped := translation.preamble.length + 1
  if number < skipped then none
  else (translation.origins[number - skipped]?).join

end Translation

/-- Whether code begins with a version directive. -/
def isVersion (code : List Char) : Bool := Text.startsWith (Text.trimStart code) "#version".toList

/-- Whether code begins with a precision statement. -/
def isPrecision (code : List Char) : Bool :=
  Text.startsWith (Text.trimStart code) "precision ".toList

/-- Opening braces less closing ones. -/
def braceBalance : List Char → Int
  | [] => 0
  | c :: rest =>
      (if c = '\x7b' then 1 else if c = '\x7d' then -1 else 0) + braceBalance rest

/-- Whether a character may begin a name. -/
def isNameStart (c : Char) : Bool := c.isAlpha || c == '_'

/-- Whether a character may belong to a name. -/
def isNameChar (c : Char) : Bool := c.isAlphanum || c == '_'

/-- Whether a text is a name. -/
def isIdentifier : List Char → Bool
  | [] => false
  | first :: rest => isNameStart first && rest.all isNameChar

/-- The words that choose a precision. -/
def precisions : List (List Char) := ["lowp".toList, "mediump".toList, "highp".toList]

/-- What follows a precision at the front, if there is one. -/
def afterPrecision (text : List Char) : List Char :=
  match Text.cutOn? Text.isBlank text with
  | some (word, tail) => if precisions.contains word then Text.trimStart tail else text
  | none => text

/-- A text without a semicolon at its end, if it has one. -/
def beforeSemicolon? (text : List Char) : Option (List Char) :=
  match text.reverse with
  | ';' :: rest => some rest.reverse
  | _ => none

/-- The type and the names of a declaration of loose uniforms. -/
def uniforms? (code : List Char) : Option (Uniform.DataType × List String) := do
  let tail ← Text.after? "uniform ".toList code
  let inner ← beforeSemicolon? tail
  let (word, list) ← Text.cutOn? Text.isBlank (afterPrecision (Text.trim inner))
  let type ← Uniform.DataType.ofWord? (String.ofList word)
  let names := (Text.pieces (· == ',') list).map Text.trim
  if names.all isIdentifier then some (type, names.map String.ofList) else none

/-- Whether code declares an output of the stage and ends on its line. -/
def isOutput (code : List Char) : Bool :=
  Text.startsWith code "out ".toList && Text.endsWith code ";".toList

/-- The text that gives an output its place. -/
def outputPlace : List Char := "layout(location = 0) ".toList

/-- What is carried from one line of a fragment stage to the next. -/
structure Scan where
  /-- Whether a block comment is open. -/
  isOpen : Bool
  /-- Opening braces less closing ones so far. -/
  depth : Int
  layout : Uniform.Layout
  /-- The first uniform that was declared with two types. -/
  fault : Option Uniform.Redeclaration

namespace Scan

/-- Before the first line. -/
def start : Scan := ⟨false, 0, .empty, none⟩

/-- Adds one uniform; the first fault is kept. -/
def addUniform (scan : Scan) (type : Uniform.DataType) (name : String) : Scan :=
  match scan.layout.push name type with
  | .ok layout => { scan with layout := layout }
  | .error fault => { scan with fault := some (scan.fault.getD fault) }

/-- Decides what becomes of a line. -/
def line (scan : Scan) (text : List Char) : Rewrite × Scan :=
  let stripped := Comment.strip scan.isOpen text
  let code := Text.trim stripped.code
  let isTop := scan.depth = 0
  let after := { scan with isOpen := stripped.isOpen, depth := scan.depth + braceBalance code }
  let blank := Rewrite.blank (Comment.edges scan.isOpen stripped.isOpen)
  if isVersion code || isPrecision code then (blank, after)
  else if ¬ isTop then (.keep, after)
  else
    match uniforms? code with
    | some (type, names) => (blank, names.foldl (fun scan' => scan'.addUniform type) after)
    | none => if isOutput code then (.lead outputPlace, after) else (.keep, after)

/-- Rewrites lines one after the other. -/
def lines (scan : Scan) : List (List Char) → List (List Char) × Scan
  | [] => ([], scan)
  | text :: rest =>
      let (rewrite, after) := scan.line text
      let (others, last) := after.lines rest
      (rewrite.apply text :: others, last)

end Scan

/-- The lines in front of a fragment stage. -/
def fragmentPreamble (layout : Uniform.Layout) : List String :=
  ["#version 450", "#define GL_FRAGMENT_PRECISION_HIGH 1"] ++
    layout.declaration ++
    ["vec4 workshop_frag_coord;", "#define gl_FragCoord workshop_frag_coord",
      "#define main workshop_main"]

/-- The lines after a fragment stage: they turn the vertical axis around. -/
def fragmentEntry : List String :=
  ["#undef main",
    "#undef gl_FragCoord",
    "void main() \x7b",
    "    workshop_frag_coord =",
    "        vec4(gl_FragCoord.x, " ++ Uniform.blockName ++ "." ++ Uniform.viewportMember ++
      ".y - gl_FragCoord.y, gl_FragCoord.z, gl_FragCoord.w);",
    "    workshop_main();",
    "\x7d"]

/-- Translates a fragment stage; its lines are counted last. -/
def translateFragment (source : List Char) : Except (Halt Uniform.Redeclaration) Translation :=
  let (body, scan) := Scan.start.lines (Text.lines source)
  match scan.fault with
  | some fault => .error (.refused fault)
  | none =>
      match Origin.ofSource source with
      | none => .error .overflow
      | some origins =>
          .ok {
            preamble := (fragmentPreamble scan.layout).map String.toList
            body := body
            entry := fragmentEntry.map String.toList
            layout := scan.layout
            origins := origins }

/-- Rewrites the lines of a vertex stage, given whether a block comment is open. -/
def vertexLines (isOpen : Bool) : List (List Char) → List (List Char)
  | [] => []
  | text :: rest =>
      let stripped := Comment.strip isOpen text
      let rewrite :=
        if isVersion stripped.code || isPrecision stripped.code then
          Rewrite.blank (Comment.edges isOpen stripped.isOpen)
        else .keep
      rewrite.apply text :: vertexLines stripped.isOpen rest

/-- Translates a vertex stage, if its lines can be counted. -/
def translateVertex (source : List Char) : Option Translation :=
  (Origin.ofSource source).map fun origins =>
    { preamble := ["#version 450".toList, "#define gl_VertexID gl_VertexIndex".toList]
      body := vertexLines false (Text.lines source)
      entry := []
      layout := .empty
      origins := origins }

end LiveShader.Source
