import LiveShader.Proofs.Console.Turn
import LiveShader.Proofs.Fragment.Edit

/-!
# The tracking of the selected fragment

The operator selects a fragment before it looks up the files on which the fragment depends.
When the look-up fails, because one of these files is there but is no text, it keeps the
references that it had: none, or those of another fragment.

So a selected fragment is tracked exactly if its references were the last that were found
since nothing was selected.  The files may change in any way between two occasions, and
every occasion comes with the files and the window as they are then.
-/

namespace LiveShader.Console

open LiveShader.Files LiveShader.Fragment

/-! ## Occasions -/

/-- What the operator is called for. -/
inductive Occasion where
  /-- The fragments are listed, as when the program starts. -/
  | refresh
  /-- A fragment is selected, as when the program starts. -/
  | select (name : String)
  | event (event : Event)
  | line (text : String)
  | signal (signal : Window.Signal)

namespace Operator

/-- The turn of the operator on an occasion. -/
def meet (operator : Operator) (place : Place) : Occasion → Turn
  | .refresh => .quiet (operator.refresh place.files)
  | .select name => operator.select place name
  | .event event => operator.onEvent place event
  | .line text => operator.onLine place text
  | .signal signal => operator.onSignal signal

/-- The operator after some occasions. -/
def after (operator : Operator) : List (Place × Occasion) → Operator
  | [] => operator
  | (place, occasion) :: rest => (operator.meet place occasion).operator.after rest

/-! ## The references that were found last -/

section Found

variable (operator : Operator) (files : Tree) (last : Option String)

/-- The fragment whose references were found last, once the selected one was read. -/
def foundByReload : Option String :=
  match operator.selected with
  | none => last
  | some file => if (operator.library.references files file).isOk then some file else last

/-- The fragment whose references were found last, once one was selected by name. -/
def foundBySelect (name : String) : Option String :=
  match operator.library.resolve files name with
  | .error _ => last
  | .ok path =>
      { operator with selected := some (Library.lastName path) }.foundByReload files last

/-- Nothing counts as found any more when the selection is given up. -/
def foundByRefresh : Option String :=
  if (operator.refresh files).selected.isSome then last else none

/-- The fragment whose references were found last, after an occasion. -/
def foundBy : Occasion → Option String
  | .refresh => operator.foundByRefresh files last
  | .select name => operator.foundBySelect files last name
  | .event .listChanged =>
      let listed := operator.refresh files
      match listed.selected, listed.fragments with
      | none, first :: _ => listed.foundBySelect files none first
      | _, _ => operator.foundByRefresh files last
  | .event (.changed name) =>
      if operator.tracked.contains name then operator.foundByReload files last else last
  | .line text =>
      match Command.ofLine text with
      | .ok (some (.load name)) => operator.foundBySelect files last name
      | _ => last
  | .signal _ => last

end Found

/--
The fragment whose references were found last in a run, unless the selection was given up
since.
-/
def lastFound (operator : Operator) (last : Option String) :
    List (Place × Occasion) → Option String
  | [] => last
  | (place, occasion) :: rest =>
      (operator.meet place occasion).operator.lastFound (operator.foundBy place.files last occasion)
        rest

end Operator

/-! ## What is tracked -/

/-- The references of a fragment as some look-up found them; no fragment has none. -/
def WereFound (directory : Directory) (tracked : List String) : Option String → Prop
  | none => tracked = []
  | some file => ∃ stem files, IsFragmentFile stem file ∧
      (Library.of directory).references files file = .ok tracked

/-- The tracked files are the references that were found last. -/
structure Tracking (directory : Directory) (operator : Operator) (last : Option String) :
    Prop where
  library : operator.library = .of directory
  selected : ∀ file, operator.selected = some file → ∃ stem, IsFragmentFile stem file
  unselected : operator.selected = none → last = none
  tracked : WereFound directory operator.tracked last

namespace Tracking

variable {directory : Directory} {operator : Operator} {last : Option String}

theorem start (directory : Directory) : Tracking directory (.start (.of directory)) none := by
  refine ⟨rfl, ?_, fun _ => rfl, rfl⟩
  intro file selected
  cases selected

/-- A reading replaces the references if it finds those of the selected fragment. -/
theorem reload (tracking : Tracking directory operator last) (place : Place) :
    Tracking directory (operator.reload place).operator
      (operator.foundByReload place.files last) := by
  rw [Operator.foundByReload]
  cases selected : operator.selected with
  | none =>
      rw [Operator.reload, selected]
      exact tracking
  | some file =>
      obtain ⟨current, after⟩ := reload_operator place selected
      have kept := (track_selected operator place.files file).trans selected
      have fragment := tracking.selected file selected
      have names := track_tracked operator place.files file
      rw [tracking.library] at names ⊢
      rw [after]
      refine ⟨(track_library ..).trans tracking.library, ?_, ?_, ?_⟩
      · intro other same
        cases kept.symm.trans same
        exact fragment
      · intro none'
        cases kept.symm.trans none'
      · dsimp only
        rw [names]
        cases references : (Library.of directory).references place.files file with
        | ok tracked =>
            obtain ⟨stem, fragment⟩ := fragment
            exact ⟨stem, place.files, fragment, references⟩
        | error cause => exact tracking.tracked

theorem select (tracking : Tracking directory operator last) (place : Place) (name : String) :
    Tracking directory (operator.select place name).operator
      (operator.foundBySelect place.files last name) := by
  rw [Operator.select, Operator.foundBySelect]
  cases resolved : operator.library.resolve place.files name with
  | error error => exact tracking
  | ok path =>
      rw [tracking.library] at resolved
      obtain ⟨stem, file, fragment, _, rfl⟩ := Library.exists_file_of_resolve resolved
      dsimp only
      rw [Library.lastName_join directory.path fragment.plain]
      apply reload
      refine ⟨tracking.library, ?_, ?_, tracking.tracked⟩
      · intro other same
        cases same
        exact ⟨stem, fragment⟩
      · intro none'
        cases none'

/-- The references go with the selection. -/
theorem refresh (tracking : Tracking directory operator last) (files : Tree) :
    Tracking directory (operator.refresh files) (operator.foundByRefresh files last) := by
  rw [Operator.foundByRefresh]
  obtain ⟨fragments, kept | dropped⟩ := refresh_eq operator files
  · rw [kept]
    have listed : Tracking directory { operator with fragments := fragments } last :=
      ⟨tracking.library, tracking.selected, tracking.unselected, tracking.tracked⟩
    split
    · exact listed
    · rename_i nothing
      have unselected : operator.selected = none := by simpa using nothing
      rw [← tracking.unselected unselected]
      exact listed
  · rw [dropped]
    refine ⟨tracking.library, ?_, fun _ => rfl, rfl⟩
    intro file selected
    cases selected

theorem listChanged (tracking : Tracking directory operator last) (place : Place) :
    Tracking directory (operator.onEvent place .listChanged).operator
      (operator.foundBy place.files last (.event .listChanged)) := by
  have listed := tracking.refresh place.files
  rw [Operator.onEvent, Operator.selectFirst, Operator.foundBy]
  cases unselected : (operator.refresh place.files).selected with
  | some file => exact listed
  | none =>
      cases fragments : (operator.refresh place.files).fragments with
      | nil => exact listed
      | cons first others =>
          have nothing := listed.unselected unselected
          rw [nothing] at listed
          exact listed.select place first

theorem changed (tracking : Tracking directory operator last) (place : Place) (name : String) :
    Tracking directory (operator.onEvent place (.changed name)).operator
      (operator.foundBy place.files last (.event (.changed name))) := by
  rw [Operator.onEvent, Operator.foundBy]
  split
  · exact tracking.reload place
  · exact tracking

theorem line (tracking : Tracking directory operator last) (place : Place) (text : String) :
    Tracking directory (operator.onLine place text).operator
      (operator.foundBy place.files last (.line text)) := by
  rw [Operator.foundBy]
  rcases onLine_eq operator place text with ⟨other, same, _⟩ | ⟨name, loads, selects⟩
  · rw [same]
    split
    · rename_i name loads
      exact absurd loads (other name)
    · exact tracking
  · rw [selects, loads]
    exact tracking.select place name

/-- Every turn keeps what is tracked in step with what was found. -/
theorem meet (tracking : Tracking directory operator last) (place : Place) (occasion : Occasion) :
    Tracking directory (operator.meet place occasion).operator
      (operator.foundBy place.files last occasion) := by
  cases occasion with
  | refresh => exact tracking.refresh place.files
  | select name => exact tracking.select place name
  | event event =>
      cases event with
      | listChanged => exact tracking.listChanged place
      | changed name => exact tracking.changed place name
  | line text => exact tracking.line place text
  | signal signal => cases signal <;> exact tracking

theorem after (tracking : Tracking directory operator last)
    (occasions : List (Place × Occasion)) :
    Tracking directory (operator.after occasions) (operator.lastFound last occasions) := by
  induction occasions generalizing operator last with
  | nil => exact tracking
  | cons first rest ih => exact ih (tracking.meet first.1 first.2)

/-! ## Members -/

section Members

variable {stem : List Char} {file : String}

/-- A fragment is tracked if its references were found last, and not with those of another. -/
theorem file_mem_iff (tracking : Tracking directory operator last)
    (fragment : IsFragmentFile stem file) : file ∈ operator.tracked ↔ last = some file := by
  have tracked := tracking.tracked
  cases last with
  | none =>
      change operator.tracked = [] at tracked
      simp [tracked]
  | some other =>
      obtain ⟨stem', files, fragment', references⟩ := tracked
      constructor
      · -- The references of another fragment hold no `.frag` file but its own.
        intro member
        rcases Library.mem_references fragment' references member with rfl | manifest | included
        · rfl
        · exact absurd manifest (Library.ne_manifest fragment stem')
        · obtain ⟨line, included⟩ := included
          exact absurd rfl (Library.ne_fragment_of_included included fragment)
      · intro same
        cases same
        exact (Library.tracks_of_references fragment' references).file

theorem manifest_mem_iff (tracking : Tracking directory operator last)
    (fragment : IsFragmentFile stem file) :
    manifestName stem ∈ operator.tracked ↔ last = some file := by
  have tracked := tracking.tracked
  cases last with
  | none =>
      change operator.tracked = [] at tracked
      simp [tracked]
  | some other =>
      obtain ⟨stem', files, fragment', references⟩ := tracked
      constructor
      · intro member
        rcases Library.mem_references fragment' references member with same | same | included
        · exact absurd same.symm (Library.ne_manifest fragment' stem)
        · have stems : stem = stem' := by
            have letters := congrArg String.toList same
            simpa [manifestName] using letters
          have files : other.toList = file.toList := by
            rw [fragment.spelled, fragment'.spelled, stems]
          rw [String.toList_injective files]
        · obtain ⟨line, included⟩ := included
          exact absurd rfl (Library.ne_manifest_of_included included stem)
      · intro same
        cases same
        have stems : stem = stem' := by
          have letters := fragment.spelled.symm.trans fragment'.spelled
          exact List.append_cancel_right letters
        rw [stems]
        exact (Library.tracks_of_references fragment' references).manifest

end Members

end Tracking

/-! ## Selected fragments -/

/-- What is told of a file that is written. -/
theorem events_write (directory : Directory) (name : FileName) (content : Content) :
    ((Edit.write name content).notice directory).events = [.changed name] := by
  have joined : Path.fileName? (Path.join directory.path name) = some name.val :=
    Path.fileName?_join name.property
  simp [Edit.notice, Notice.events, Notice.isStructural, Notice.changedNames, joined]

/--
Which selected fragments are tracked.  Take any occasions in any order, each with whatever
files there are then.  Nothing is tracked while nothing is selected.  A selected fragment and
its manifest are both tracked if its references were the last to be found, and otherwise
neither is: a file that cannot be read as text when the fragment is selected leaves it
untracked.  A write to one of the two makes the operator read the fragment again exactly if
they are tracked.
-/
theorem selected_tracked_iff (directory : Directory) (occasions : List (Place × Occasion)) :
    let operator := (Operator.start (.of directory)).after occasions
    let last := (Operator.start (.of directory)).lastFound none occasions
    (operator.selected = none → operator.tracked = []) ∧
      ∀ file, operator.selected = some file →
        let manifest := Library.lastName (manifestPath (Path.join directory.path file))
        (file ∈ operator.tracked ↔ last = some file) ∧
          (manifest ∈ operator.tracked ↔ last = some file) ∧
            ∀ (written : FileName) content, written.val = file ∨ written.val = manifest →
              ((Edit.write written content).notice directory).events = [.changed written] ∧
                ∀ place, operator.onEvent place (.changed written) =
                  if last = some file then operator.reload place else .quiet operator := by
  intro operator last
  have tracking : Tracking directory operator last := (Tracking.start directory).after occasions
  constructor
  · intro unselected
    have tracked := tracking.tracked
    rw [tracking.unselected unselected] at tracked
    exact tracked
  · intro file selected manifest
    obtain ⟨stem, fragment⟩ := tracking.selected file selected
    have named : manifest = manifestName stem := by
      simp only [manifest]
      rw [fragment.manifestPath_join, Library.lastName_join directory.path
        fragment.plain_manifestName]
    have own := tracking.file_mem_iff fragment
    have beside := tracking.manifest_mem_iff fragment
    rw [← named] at beside
    refine ⟨own, beside, ?_⟩
    intro written content one
    refine ⟨events_write directory written content, ?_⟩
    intro place
    have member : written.val ∈ operator.tracked ↔ last = some file := by
      rcases one with same | same
      · rw [same]
        exact own
      · rw [same]
        exact beside
    rw [Operator.onEvent]
    simp only [List.contains_iff_mem, member]

/-- A directory of drafts. -/
def drafts : Directory := ⟨["drafts"], by
  intro name member
  rw [List.mem_singleton.mp member]
  constructor <;> decide⟩

/-- A fragment that is no text yet. -/
def scrambledFiles : Tree := ⟨[
  (["drafts"], .directory),
  (["drafts", "main.frag"], .file (.bytes [255]))], []⟩

/-- The same fragment, written again. -/
def mendedFiles : Tree := ⟨[
  (["drafts"], .directory),
  (["drafts", "main.frag"], .file (.text "void main() {}\n"))], []⟩

/-- The fragment is selected before it can be read. -/
def selectedEarly : List (Place × Occasion) := [(⟨scrambledFiles, true⟩, .select "main")]

/-- The fragment is selected and not tracked, and its mending shows nothing. -/
theorem scrambled_untracked :
    let operator := (Operator.start (.of drafts)).after selectedEarly
    operator.selected = some "main.frag" ∧ operator.tracked = [] ∧
      (operator.onEvent ⟨mendedFiles, true⟩ (.changed "main.frag")).shown? = none ∧
        (fresh? (.of drafts) mendedFiles "main.frag").isSome = true := by
  decide +kernel

/-- Selected once more, it is tracked with its manifest. -/
theorem mended_tracked :
    let occasions := selectedEarly ++ [(⟨mendedFiles, true⟩, .line "load main")]
    let operator := (Operator.start (.of drafts)).after occasions
    operator.selected = some "main.frag" ∧ "main.frag" ∈ operator.tracked ∧
      "main.toml" ∈ operator.tracked := by
  intro occasions operator
  have selected : operator.selected = some "main.frag" := by decide +kernel
  have found : (Operator.start (.of drafts)).lastFound none occasions = some "main.frag" := by
    decide +kernel
  have manifest : Library.lastName (manifestPath (Path.join drafts.path "main.frag")) =
      "main.toml" := by decide +kernel
  have members := (selected_tracked_iff drafts occasions).2 "main.frag" selected
  dsimp only at members
  rw [manifest] at members
  exact ⟨selected, members.1.mpr found, members.2.1.mpr found⟩

end LiveShader.Console
