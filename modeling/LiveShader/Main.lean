import LiveShader.Application.Reach

/-!
# The command line

The files that a run may look at are taken into one tree.  The run itself is a
function of that tree, and what it answers is printed.
-/

namespace LiveShader.Main

/-- How far files are taken: a named directory and what is directly in it. -/
def depthLimit : Nat := 2

/-- What the bytes of a file say. -/
def contentOf (bytes : ByteArray) : Files.Content :=
  match String.fromUTF8? bytes with
  | some text => .text text
  | none => .bytes bytes.toList

/-- Takes what is at a path, and what is below it, into a tree. -/
def takePath (tree : Files.Tree) (location : Files.Location) (path : Files.Path) :
    Nat → IO Files.Tree
  | 0 => pure tree
  | depth + 1 => do
      let place ← IO.FS.realPath path
      match (← place.metadata).type with
      | .dir =>
          let entries ← place.readDir
          entries.foldlM
            (fun tree entry =>
              takePath tree (location ++ [entry.fileName]) (Files.Path.join path entry.fileName)
                depth <|> pure tree)
            (tree.putWithParents location .directory)
      | .file =>
          return tree.putWithParents location (.file (contentOf (← IO.FS.readBinFile place)))
      | _ => pure tree

/-- Notes that a path leads to a directory, if it does. -/
def markDirectory (tree : Files.Tree) (path : Files.Path) : IO Files.Tree :=
  (do
    match (← (← IO.FS.realPath path).metadata).type with
    | .dir => return tree.putWithParents (tree.locationOf path) .directory
    | _ => pure tree) <|> pure tree

/-- Takes a named directory into a tree, if it is there, with those on the way to it. -/
def takeNamed (tree : Files.Tree) (path : Files.Path) : IO Files.Tree := do
  let tree ← (Application.directoriesOnTheWay path).foldlM markDirectory tree
  takePath tree (tree.locationOf path) path depthLimit <|> pure tree

/-- The arguments, the hints and the files of this process. -/
def environmentOf (arguments : List String) : IO Application.Environment := do
  let hints : Settings.Hints :=
    { file := ← IO.getEnv Arguments.settingsVariable
      directory := ← IO.getEnv "WORKSHOP_CONFIG_DIR"
      configHome := ← IO.getEnv "XDG_CONFIG_HOME"
      home := ← IO.getEnv "HOME" }
  let here := Files.Tree.namesOf (toString (← IO.currentDir))
  let files := (Files.Tree.mk [] []).putWithParents here .directory
  let bare : Application.Environment :=
    ⟨arguments, hints, { files with workingDirectory := here }, ""⟩
  let files ← bare.namedDirectories.foldlM takeNamed bare.files
  let named := { bare with files := files }
  let files ← named.shaderDirectory?.toList.foldlM takeNamed named.files
  let input ← if named.readsInput then (← IO.getStdin).readToEnd else pure ""
  return { named with files := files, input := input }

end LiveShader.Main

/-- Runs the program once. -/
def main (arguments : List String) : IO UInt32 := do
  let answer := LiveShader.Application.run (← LiveShader.Main.environmentOf arguments)
  IO.print answer.output
  IO.eprint answer.errors
  return answer.code.toUInt32
