import LiveShader.Proofs.Console.Turn
import LiveShader.Proofs.Fragment.Edit

/-!
# The operator among files that are edited

The files of a library are edited while the operator follows them.  Every edit is told
by events, which the operator handles in order but maybe late, between lines of the
console.  A run is a list of steps, and each step is an edit or a turn of the operator.
-/

namespace LiveShader.Console

open LiveShader.Files LiveShader.Fragment

/-- The operator with an open window, and the files that are edited around it. -/
structure World where
  files : Tree
  operator : Operator
  /-- The events that are not handled yet, the oldest first. -/
  pending : List Event
  /-- What was handed to the window to show, the newest first. -/
  shown : List Shown

/-- What can happen next. -/
inductive Step where
  | edit (edit : Edit)
  /-- The oldest event is handled. -/
  | deliver
  | line (text : String)
  | signal (signal : Window.Signal)
  /-- The fragments are listed, as when the program starts. -/
  | refresh
  /-- A fragment is selected, as when the program starts. -/
  | select (name : String)

namespace World

/-- The world before anything was selected. -/
def start (directory : Directory) (files : Tree) : World :=
  ⟨files, .start (.of directory), [], []⟩

/-- The world after a turn of the operator. -/
def take (world : World) (turn : Turn) : World :=
  { world with operator := turn.operator, shown := turn.shown?.toList ++ world.shown }

/-- The world after a step.  An edit that is refused changes nothing and is not told. -/
def step (directory : Directory) (world : World) : Step → World
  | .edit edit =>
      match edit.result? directory world.files with
      | some files =>
          { world with
            files := files
            pending := world.pending ++ (edit.notice directory).events }
      | none => world
  | .deliver =>
      match world.pending with
      | event :: pending =>
          { world with pending := pending }.take
            (world.operator.onEvent (openPlace world.files) event)
      | [] => world
  | .line text => world.take (world.operator.onLine (openPlace world.files) text)
  | .signal signal => world.take (world.operator.onSignal signal)
  | .refresh => world.take (.quiet (world.operator.refresh world.files))
  | .select name => world.take (world.operator.select (openPlace world.files) name)

/-- The world after some steps. -/
def run (directory : Directory) (files : Tree) (steps : List Step) : World :=
  steps.foldl (step directory) (start directory files)

/-- Whether a step makes the operator read a fragment. -/
def reads (world : World) : Step → Bool
  | .deliver =>
      match world.pending with
      | .changed name :: _ =>
          world.operator.tracked.contains name && world.operator.selected.isSome
      | .listChanged :: _ => opensFirst (world.operator.refresh world.files) world.files
      | [] => false
  | .line text =>
      match Command.ofLine text with
      | .ok (some (.load name)) => opens world.operator world.files name
      | _ => false
  | .select name => opens world.operator world.files name
  | .edit _ | .signal _ | .refresh => false

/-- The world right after the last of some steps that read a fragment, if one did. -/
def lastReading? (directory : Directory) (world : World) : List Step → Option World
  | [] => none
  | step :: rest =>
      let next := world.step directory step
      (next.lastReading? directory rest).or (if world.reads step then some next else none)

/-- Whether the references of the selected fragment can be looked up. -/
def Found (directory : Directory) (world : World) : Prop :=
  ∀ file, world.operator.selected = some file →
    ∃ tracked, (Library.of directory).references world.files file = .ok tracked

theorem found_of_isOk {directory : Directory} {world : World} {file : String}
    (selected : world.operator.selected = some file)
    (succeeds : ((Library.of directory).references world.files file).isOk = true) :
    world.Found directory := by
  intro other chosen
  cases selected.symm.trans chosen
  cases references : (Library.of directory).references world.files file with
  | ok tracked => exact ⟨tracked, rfl⟩
  | error cause =>
      rw [references] at succeeds
      cases succeeds

theorem lastReading?_concat (directory : Directory) (world : World) (steps : List Step)
    (step : Step) :
    world.lastReading? directory (steps ++ [step]) =
      let before := steps.foldl (World.step directory) world
      if before.reads step then some (before.step directory step)
      else world.lastReading? directory steps := by
  induction steps generalizing world with
  | nil => exact Option.none_or
  | cons first rest ih =>
      rw [List.cons_append, lastReading?, ih, lastReading?, List.foldl_cons]
      dsimp only
      split
      · exact Option.some_or
      · rfl

end World

/-! ## Runs -/

section Runs

variable {directory : Directory} {files : Tree}

theorem run_concat (steps : List Step) (step : Step) :
    World.run directory files (steps ++ [step]) =
      (World.run directory files steps).step directory step := by
  rw [World.run]
  rw [List.foldl_append]
  rfl

/-- The last step of a run that read a fragment found its references. -/
def LastFound (directory : Directory) (files : Tree) (steps : List Step) : Prop :=
  ∀ world, (World.start directory files).lastReading? directory steps = some world →
    world.Found directory

/-- A step that reads a fragment is the last one that does. -/
theorem lastFound_concat_of_reads {steps : List Step} {step : Step}
    (reads : (World.run directory files steps).reads step = true) :
    LastFound directory files (steps ++ [step]) ↔
      (World.run directory files (steps ++ [step])).Found directory := by
  have last := World.lastReading?_concat directory (World.start directory files) steps step
  have stepped : (World.start directory files).lastReading? directory (steps ++ [step]) =
      some (World.run directory files (steps ++ [step])) := by
    rw [run_concat]
    exact last.trans (if_pos reads)
  constructor
  · intro found
    exact found _ stepped
  · intro found world same
    cases stepped.symm.trans same
    exact found

/-- A step that reads nothing leaves the last reading what it was. -/
theorem lastFound_concat_of_unread {steps : List Step} {step : Step}
    (unread : (World.run directory files steps).reads step = false) :
    LastFound directory files (steps ++ [step]) ↔ LastFound directory files steps := by
  have last := World.lastReading?_concat directory (World.start directory files) steps step
  have same : (World.start directory files).lastReading? directory (steps ++ [step]) =
      (World.start directory files).lastReading? directory steps :=
    last.trans (if_neg (Bool.not_eq_true _ ▸ unread))
  rw [LastFound, same, LastFound]

theorem lastFound_nil : LastFound directory files [] := by
  intro world read
  cases read

theorem LastFound.concat {steps : List Step} {step : Step}
    (found : LastFound directory files steps)
    (finds : (World.run directory files steps).reads step = true →
      (World.run directory files (steps ++ [step])).Found directory) :
    LastFound directory files (steps ++ [step]) := by
  cases reads : (World.run directory files steps).reads step with
  | true => exact (lastFound_concat_of_reads reads).mpr (finds reads)
  | false => exact (lastFound_concat_of_unread reads).mpr found

end Runs

end LiveShader.Console
