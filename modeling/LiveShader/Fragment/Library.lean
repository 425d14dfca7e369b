import LiveShader.Fragment.Change
import LiveShader.Fragment.Expansion
import LiveShader.Manifest.Document

/-!
# A library of fragments

A library is a directory of fragments with the files that they include and a
manifest beside each.  A fragment is addressed by name, with or without its
extension, and never outside the directory.
-/

namespace LiveShader.Fragment

open LiveShader.Files

/-- The manifest that belongs to a fragment. -/
def manifestPath (fragment : Path) : Path := Path.withExtension fragment "toml"

/-- Why something could not be taken from a library. -/
inductive LibraryError where
  | notADirectory (path : Path)
  | unknownFragment (name : String)
  | files (cause : FileError)
  | unreadableSource (fault : ReadFault)
  | unreadableManifest (fault : ReadFault)
  | malformedManifest (path : Path)
  | invalidManifest (path : Path) (issues : List Manifest.Declaration.Issue)
  deriving DecidableEq

/-- The wording of an error. -/
def LibraryError.message : LibraryError → String
  | .notADirectory path => path ++ " is not a directory"
  | .unknownFragment name => "no fragment named '" ++ name ++ "'"
  | .files cause => cause.message
  | .unreadableSource fault | .unreadableManifest fault => fault.message
  | .malformedManifest path => "failed to parse " ++ path
  | .invalidManifest path issues =>
      "invalid controls in " ++ path ++ ": " ++
        Text.joinWith "; " (issues.map Manifest.Declaration.Issue.message)

/-- What an error was caused by, beyond its own wording. -/
def LibraryError.furtherCauses : LibraryError → List String
  | .unreadableSource fault | .unreadableManifest fault => [fault.cause.message]
  | _ => []

/-- A fragment with everything needed to run it. -/
structure Loaded where
  name : String
  content : String
  /-- The files of the content by their number. -/
  files : List String
  controls : List Manifest.Declaration

namespace Loaded

/-- One row of the table of files: the number at the right end of seven columns. -/
def tableRow (number : Nat) (name : String) : String :=
  let digits := toString number
  String.ofList (List.replicate (7 - digits.length) ' ') ++ digits ++ " -> " ++ name ++ "\n"

/-- The table of files by number. -/
def filesTable (loaded : Loaded) : String :=
  "File ID -> filename\n" ++
    String.join (loaded.files.zipIdx.map fun (name, number) => tableRow number name)

/-- A loaded fragment as JSON, its name left out. -/
def json (loaded : Loaded) : Data.Json :=
  .object [("content", .string loaded.content),
    ("refs", .array (loaded.files.map .string)),
    ("controls", .array (loaded.controls.map Manifest.Declaration.json))]

end Loaded

/-- The declarations of the manifest beside a fragment; without one there are none. -/
def loadManifest (tree : Tree) (fragment : Path) :
    Except LibraryError (List Manifest.Declaration) :=
  let path := manifestPath fragment
  match tree.readText path with
  | .error .notFound => .ok []
  | .error cause => .error (.unreadableManifest ⟨path, cause⟩)
  | .ok document =>
      match Manifest.read? document with
      | none => .error (.malformedManifest path)
      | some declarations =>
          match Manifest.Declaration.validate declarations with
          | [] => .ok declarations
          | issues => .error (.invalidManifest path issues)

/-- A directory of fragments, by its absolute path. -/
structure Library where
  root : Path
  deriving Repr, DecidableEq

namespace Library

/-- Opens a directory as a library. -/
def openAt (tree : Tree) (path : Path) : Except LibraryError Library :=
  if tree.isDirectory path then
    match tree.canonical path with
    | .ok root => .ok ⟨root⟩
    | .error cause => .error (.files cause)
  else .error (.notADirectory path)

/-- Whether an entry of the directory is a fragment. -/
def isFragment (item : String × Entry) : Bool :=
  Path.extensionOf? item.1 == some extension &&
    match item.2 with
    | .file _ => true
    | .directory => false

/-- The names of all fragments in order. -/
def list (library : Library) (tree : Tree) : Except LibraryError (List String) :=
  match tree.children library.root with
  | .error cause => .error (.files cause)
  | .ok items =>
      .ok (((items.filter isFragment).map Prod.fst).mergeSort fun a b => decide (a ≤ b))

/-- The file that a name addresses; nothing for a name that could lead elsewhere. -/
def fileName? (name : String) : Option String :=
  let text := name.toList
  if text.isEmpty || text.contains '/' || text.contains '\\' || text.head? == some '.' then none
  else if Text.endsWith text ("." ++ extension).toList then some name
  else some (name ++ "." ++ extension)

/-- The path of a fragment. -/
def resolve (library : Library) (tree : Tree) (name : String) : Except LibraryError Path :=
  match fileName? name with
  | none => .error (.unknownFragment name)
  | some file =>
      let path := Path.join library.root file
      if tree.isFile path then .ok path else .error (.unknownFragment name)

/-- The last name of a path, empty if it has none. -/
def lastName (path : Path) : String := (Path.fileName? path).getD ""

/-- Loads a fragment with its includes and its manifest. -/
def load (library : Library) (tree : Tree) (options : Options) (name : String) :
    Except LibraryError Loaded :=
  match library.resolve tree name with
  | .error error => .error error
  | .ok path =>
      match combineIn tree options path with
      | .error fault => .error (.unreadableSource fault)
      | .ok combined =>
          match loadManifest tree path with
          | .error error => .error error
          | .ok controls => .ok ⟨lastName path, combined.content, combined.files, controls⟩

/-- Visits included files in the order of their lines. -/
def visitAll (visit : List String → Path → Except FileError (List String)) (root : Path) :
    List String → List String → Except FileError (List String)
  | found, [] => .ok found
  | found, name :: rest =>
      match visit found (Path.join root name) with
      | .error cause => .error cause
      | .ok found => visitAll visit root found rest

/--
Adds the file of a path and all files that it includes to those found so far.  A
file that does not exist is added and includes nothing.  The fuel bounds how deep
includes nest; one more than the number of files is enough.
-/
def visitFile (read : ReadText) (root : Path) :
    Nat → List String → Path → Except FileError (List String)
  | fuel, found, path =>
      if found.contains (lastName path) then .ok found
      else
        match read path with
        | .error .notFound => .ok (lastName path :: found)
        | .error cause => .error cause
        | .ok text =>
            match fuel with
            | 0 => .ok (lastName path :: found)
            | fuel + 1 =>
                visitAll (visitFile read root fuel) root (lastName path :: found)
                  ((Text.lines text.toList).filterMap includedFile?)

/--
The names of the files whose change matters to a fragment, in order: the fragment,
all files that it includes, and its manifest.
-/
def references (library : Library) (tree : Tree) (name : String) :
    Except LibraryError (List String) :=
  match library.resolve tree name with
  | .error error => .error error
  | .ok path =>
      match visitFile tree.readText library.root (tree.entries.length + 1)
          [lastName (manifestPath path)] path with
      | .error cause => .error (.files cause)
      | .ok found => .ok (found.mergeSort fun a b => decide (a ≤ b))

end Library

end LiveShader.Fragment
