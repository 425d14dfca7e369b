import LiveShader.Files.Tree
import LiveShader.Fragment.Include
import LiveShader.Text.Lines

/-!
# Expanding includes

A fragment becomes one text by putting every included file in the place of the
line that first names it.  Files are numbered in the order in which they are first
met, and each one is put in only once.  On request, directives name the file and
line of what follows wherever the text changes from one file to another.
-/

namespace LiveShader.Fragment

open LiveShader.Files

/-- How files are read. -/
abbrev ReadText := Path → Except FileError String

/-- A file that could not be read. -/
structure ReadFault where
  path : Path
  cause : FileError
  deriving Repr, DecidableEq

/-- The wording of a fault. -/
def ReadFault.message (fault : ReadFault) : String :=
  "failed to read " ++ fault.path ++ ": " ++ fault.cause.message

/-- The text of a file with its includes, and the names of all files met so far. -/
structure Expanded where
  text : List Char
  files : List String
  deriving Repr, DecidableEq

/-- The line that gives the next line its number and file. -/
def lineDirective (number file : Nat) : List Char :=
  ("#line " ++ toString number ++ " " ++ toString file ++ "\n").toList

/-- A text with a line feed at its end, unless it is empty. -/
def closeLine (text : List Char) : List Char :=
  match text.getLast? with
  | none => []
  | some '\n' => text
  | some _ => text ++ ['\n']

/-- An included text as it stands in the text that includes it. -/
def inlined (directives : Bool) (child parent number : Nat) (text : List Char) : List Char :=
  if directives then
    lineDirective 1 child ++ closeLine text ++ lineDirective (number + 1) parent
  else closeLine text

/--
Expands the lines of one file.  The file has a number, and `number` counts its
lines; `expandChild` expands a file that is met for the first time.
-/
def expandLines (expandChild : List String → String → Except ReadFault Expanded)
    (directives : Bool) (file : Nat) :
    Nat → List String → List (List Char) → Except ReadFault Expanded
  | _, files, [] => .ok ⟨[], files⟩
  | number, files, line :: rest =>
      match includedFile? line with
      | none =>
          match expandLines expandChild directives file (number + 1) files rest with
          | .error fault => .error fault
          | .ok tail => .ok ⟨line ++ tail.text, tail.files⟩
      | some name =>
          if files.contains name then
            expandLines expandChild directives file (number + 1) files rest
          else
            match expandChild files name with
            | .error fault => .error fault
            | .ok child =>
                match expandLines expandChild directives file (number + 1) child.files rest with
                | .error fault => .error fault
                | .ok tail =>
                    .ok ⟨inlined directives files.length file number child.text ++ tail.text,
                      tail.files⟩

/-- The name under which the file of a path is known. -/
def knownName (path : Path) : String := (Path.fileName? path).getD path

/--
Expands the file of a path, given the files met before it.  The fuel bounds how
deep includes nest; one more than the number of files is enough, because a file on
the way is never entered again.
-/
def expandFile (read : ReadText) (directives : Bool) :
    Nat → List String → Path → Except ReadFault Expanded
  | fuel, files, path =>
      match read path with
      | .error cause => .error ⟨path, cause⟩
      | .ok text =>
          match fuel with
          | 0 => .error ⟨path, .notFound⟩
          | fuel + 1 =>
              let directory := (Path.parent? path).getD ""
              expandLines
                (fun met name => expandFile read directives fuel met (Path.join directory name))
                directives files.length 1 (files ++ [knownName path])
                (Text.terminatedLines text.toList)

/-- The lines in front of a fragment on request. -/
def fragmentHeader : String :=
  "#version 300 es\n" ++
  "#if GL_FRAGMENT_PRECISION_HIGH\n" ++
  "precision highp float;\n" ++
  "precision highp int;\n" ++
  "#else\n" ++
  "precision mediump float;\n" ++
  "precision mediump int;\n" ++
  "#endif\n" ++
  "out vec4 out_color;\n" ++
  "uniform float time;\n" ++
  "uniform vec2 resolution;\n"

/-- What a combined text is made with. -/
structure Options where
  header : Bool
  directives : Bool
  deriving Repr, DecidableEq

/-- With the header and with directives. -/
def Options.full : Options := ⟨true, true⟩

/-- What stands in front of the text of the fragment. -/
def Options.opening (options : Options) : List Char :=
  if options.header then
    fragmentHeader.toList ++ (if options.directives then lineDirective 1 0 else [])
  else []

/-- A combined text with the names of its files by number. -/
structure Combined where
  content : String
  files : List String
  deriving Repr, DecidableEq

/-- Expands a fragment, reading at most `count` different files. -/
def combine (read : ReadText) (count : Nat) (options : Options) (path : Path) :
    Except ReadFault Combined :=
  match expandFile read options.directives (count + 1) [] path with
  | .error fault => .error fault
  | .ok expanded =>
      .ok ⟨String.ofList (options.opening ++ expanded.text), expanded.files⟩

/-- Expands a fragment of a tree of files. -/
def combineIn (tree : Tree) (options : Options) (path : Path) : Except ReadFault Combined :=
  combine tree.readText tree.entries.length options path

end LiveShader.Fragment
