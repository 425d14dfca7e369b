import LiveShader.Files.Path

/-!
# Changes in a library

A notice from the file system tells what happened to some paths.  It becomes the
events that matter to a library: its list of fragments may have changed, or the
content of a file may have.
-/

namespace LiveShader.Fragment

/-- The extension of fragments. -/
def extension : String := "frag"

/-- What happened to the paths of a notice. -/
inductive Happening where
  | created
  | removed
  | renamed
  | modified
  /-- Only times, owners or permissions changed. -/
  | touched
  | accessed
  | unknown
  deriving Repr, DecidableEq

/-- A notice from the file system. -/
structure Notice where
  happening : Happening
  paths : List Files.Path
  deriving Repr

/-- An event that matters to a library. -/
inductive Event where
  | listChanged
  | changed (name : String)
  deriving Repr, DecidableEq

namespace Notice

/-- Whether files came, went or got another name. -/
def isStructural (notice : Notice) : Bool :=
  match notice.happening with
  | .created | .removed | .renamed => true
  | _ => false

/-- Whether some path is that of a fragment. -/
def touchesFragment (notice : Notice) : Bool :=
  notice.paths.any fun path => Files.Path.extension? path == some extension

/-- The names of the files whose content may have changed, each once. -/
def changedNames (notice : Notice) : List String :=
  (notice.paths.filterMap Files.Path.fileName?).foldl
    (fun names name => if names.contains name then names else names ++ [name]) []

/-- The events of a notice. -/
def events (notice : Notice) : List Event :=
  match notice.happening with
  | .touched | .accessed | .unknown => []
  | _ =>
      (if notice.isStructural && notice.touchesFragment then [.listChanged] else []) ++
        (if notice.happening = .removed then [] else notice.changedNames.map .changed)

end Notice

end LiveShader.Fragment
