import LiveShader.Application.Run

/-!
# What a run looks at

The files that a run may read are below a few directories.  The arguments and the
hints name the first of them, and the settings name the directory of fragments.
-/

namespace LiveShader.Application

open LiveShader.Arguments

/-- The directories that a task names. -/
def directoriesOf : Task → List Files.Path
  | .run => []
  | .list directory => directory.toList
  | .print fragment _ _ => [directoryOf fragment]

/-- A path and the paths above it; the fuel bounds their number. -/
def withAncestors : Nat → Files.Path → List Files.Path
  | 0, path => [path]
  | fuel + 1, path =>
      match Files.Path.parent? path with
      | some above => path :: withAncestors fuel above
      | none => [path]

/-- The directories on the way to a path, the path itself included. -/
def directoriesOnTheWay (path : Files.Path) : List Files.Path :=
  (withAncestors path.length path).filter fun above => !above.isEmpty

/-- The directories that the arguments and the hints name. -/
def Environment.namedDirectories (environment : Environment) : List Files.Path :=
  match Invocation.read environment.lookup environment.arguments with
  | .error _ => []
  | .ok invocation =>
      let settingsFile := invocation.options.file.or environment.hints.standardFile?
      directoriesOf invocation.task ++ (settingsFile.map directoryOf).toList

/-- The directory of fragments, once the settings file can be read. -/
def Environment.shaderDirectory? (environment : Environment) : Option Files.Path :=
  match Invocation.read environment.lookup environment.arguments with
  | .error _ => none
  | .ok invocation =>
      match settingsOf environment invocation.options with
      | .error _ => none
      | .ok settings => some settings.shaderDirectory

/-- Whether a run reads its input. -/
def Environment.readsInput (environment : Environment) : Bool :=
  match Invocation.read environment.lookup environment.arguments with
  | .error _ => false
  | .ok invocation => invocation.task == .run

end LiveShader.Application
