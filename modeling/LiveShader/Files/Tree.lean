import LiveShader.Files.Path
import LiveShader.Image.Basic
import LiveShader.Text.Blank

/-!
# A tree of files

Files and directories are kept by their location, the list of names from the
root.  A path is walked name by name: every name but the last has to be a
directory, and each refusal is one of a few causes with a fixed wording.
-/

namespace LiveShader.Files

/-- Why an operation on a file was refused. -/
inductive FileError where
  | notFound
  | notADirectory
  | isADirectory
  | exists
  | nameTooLong
  | notText
  | nulInName
  deriving Repr, DecidableEq

/-- The wording of a refusal. -/
def FileError.message : FileError → String
  | .notFound => "No such file or directory (os error 2)"
  | .notADirectory => "Not a directory (os error 20)"
  | .isADirectory => "Is a directory (os error 21)"
  | .exists => "File exists (os error 17)"
  | .nameTooLong => "File name too long (os error 36)"
  | .notText => "stream did not contain valid UTF-8"
  | .nulInName => "file name contained an unexpected NUL byte"

/-- What a file holds: text, an image, or other bytes that are not text. -/
inductive Content where
  | text (content : String)
  | image (content : Image)
  | bytes (content : List UInt8)
  deriving DecidableEq

/-- What a location holds. -/
inductive Entry where
  | directory
  | file (content : Content)
  deriving DecidableEq

/-- The names from the root to a file or directory. -/
abbrev Location := List String

/-- Files and directories by location.  The root is always a directory. -/
structure Tree where
  entries : List (Location × Entry)
  /-- Where relative paths start. -/
  workingDirectory : Location

namespace Tree

/-- The entry at a location. -/
def lookup (tree : Tree) (location : Location) : Option Entry :=
  if location.isEmpty then some .directory
  else (tree.entries.find? fun item => item.1 == location).map Prod.snd

/-- Follows names from a directory.  Only the last name may be missing. -/
def walk (tree : Tree) : Location → List String → Except FileError (Location × Option Entry)
  | here, [] => .ok (here, some .directory)
  | here, name :: rest =>
      if name == "." then tree.walk here rest
      else if name == ".." then tree.walk here.dropLast rest
      else if 255 < name.utf8ByteSize then .error .nameTooLong
      else
        let location := here ++ [name]
        match tree.lookup location with
        | some .directory => tree.walk location rest
        | some (.file content) =>
            if rest.isEmpty then .ok (location, some (.file content)) else .error .notADirectory
        | none => if rest.isEmpty then .ok (location, none) else .error .notFound

/-- The names of a path; a slash at the end asks for a directory, as `.` does. -/
def pathNames (path : Path) : List String :=
  let names := (Text.pieces (· == '/') path.toList).filter (!·.isEmpty)
  let names := if path.toList.getLast? = some '/' then names ++ [['.']] else names
  names.map String.ofList

/-- Finds where a path leads. -/
def locate (tree : Tree) (path : Path) : Except FileError (Location × Option Entry) :=
  if path.toList.contains '\x00' then .error .nulInName
  else if path.isEmpty then .error .notFound
  else if 4096 ≤ path.utf8ByteSize then .error .nameTooLong
  else
    let start := if path.toList.head? = some '/' then [] else tree.workingDirectory
    tree.walk start (pathNames path)

/-- The location and entry of a path that has to exist. -/
def find (tree : Tree) (path : Path) : Except FileError (Location × Entry) := do
  match ← tree.locate path with
  | (location, some entry) => .ok (location, entry)
  | (_, none) => .error .notFound

/-- Whether a path leads to a directory. -/
def isDirectory (tree : Tree) (path : Path) : Bool :=
  match tree.find path with
  | .ok (_, .directory) => true
  | _ => false

/-- Whether a path leads to a file. -/
def isFile (tree : Tree) (path : Path) : Bool :=
  match tree.find path with
  | .ok (_, .file _) => true
  | _ => false

/-- The text of a file. -/
def readText (tree : Tree) (path : Path) : Except FileError String := do
  match ← tree.find path with
  | (_, .directory) => .error .isADirectory
  | (_, .file (.text content)) => .ok content
  | (_, .file (.image _)) | (_, .file (.bytes _)) => .error .notText

/-- The names of an absolute path without idle ones. -/
def namesOf (path : Path) : Location :=
  ((Text.pieces (· == '/') path.toList).map String.ofList).filter fun name =>
    !name.isEmpty && name != "."

/-- The location that a path spells, whether or not something is there. -/
def locationOf (tree : Tree) (path : Path) : Location :=
  (pathNames path).foldl
    (fun here name =>
      if name == "." then here else if name == ".." then here.dropLast else here ++ [name])
    (if Path.isAbsolute path then [] else tree.workingDirectory)

/-- A location as an absolute path. -/
def pathOf (location : Location) : Path := "/" ++ String.intercalate "/" location

/-- The absolute path of something that exists, without idle names. -/
def canonical (tree : Tree) (path : Path) : Except FileError Path := do
  let (location, _) ← tree.find path
  .ok (pathOf location)

/-- The names in a directory with what they hold. -/
def children (tree : Tree) (path : Path) : Except FileError (List (String × Entry)) := do
  match ← tree.find path with
  | (_, .file _) => .error .notADirectory
  | (location, .directory) =>
      .ok <| tree.entries.filterMap fun item =>
        match item.1.getLast? with
        | some name => if item.1.dropLast == location then some (name, item.2) else none
        | none => none

/-- Puts an entry at a location in place of what was there. -/
def put (tree : Tree) (location : Location) (entry : Entry) : Tree :=
  { tree with
    entries := (tree.entries.filter fun item => item.1 != location) ++ [(location, entry)] }

/-- Puts an entry at a location and a directory at every location above it. -/
def putWithParents (tree : Tree) (location : Location) (entry : Entry) : Tree :=
  let above := (List.range location.length).map location.take
  let grown := above.foldl
    (fun tree' parent =>
      if (tree'.lookup parent).isSome then tree' else tree'.put parent .directory)
    tree
  grown.put location entry

/-- Removes a location and everything below it. -/
def erase (tree : Tree) (location : Location) : Tree :=
  { tree with entries := tree.entries.filter fun item => !(location.isPrefixOf item.1) }

/-- Makes one directory. -/
def makeDirectory (tree : Tree) (path : Path) : Except FileError Tree := do
  let bare := String.ofList ((path.toList.reverse.dropWhile (· == '/')).reverse)
  match ← tree.locate (if bare.isEmpty then path else bare) with
  | (_, some _) => .error .exists
  | (location, none) => .ok (tree.put location .directory)

/-- Makes one directory unless it is there already; tells why that failed, if it did. -/
def ensureDirectory (tree : Tree) (path : Path) : Tree × Option FileError :=
  match tree.makeDirectory path with
  | .ok grown => (grown, none)
  | .error cause => (tree, if tree.isDirectory path then none else some cause)

/--
Makes a directory and the missing ones above it, which stay even when a later one
cannot be made.  The fuel bounds the number of names in the path.
-/
def makeDirectoriesWithin (tree : Tree) (path : Path) : Nat → Tree × Option FileError
  | 0 => (tree, some .notFound)
  | fuel + 1 =>
      if path.isEmpty then (tree, none)
      else
        match tree.ensureDirectory path, Path.parent? path with
        | (_, some .notFound), some above =>
            match tree.makeDirectoriesWithin above fuel with
            | (grown, none) => grown.ensureDirectory path
            | failed => failed
        | outcome, _ => outcome

/-- Makes a directory and the missing ones above it. -/
def makeDirectories (tree : Tree) (path : Path) : Tree × Option FileError :=
  tree.makeDirectoriesWithin path (path.length + 1)

/-- Writes a file in a directory that exists. -/
def write (tree : Tree) (path : Path) (content : Content) : Except FileError Tree := do
  match ← tree.locate path with
  | (_, some .directory) => .error .isADirectory
  | (location, _) => .ok (tree.put location (.file content))

end Tree

end LiveShader.Files
