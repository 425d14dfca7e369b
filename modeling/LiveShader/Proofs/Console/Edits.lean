import LiveShader.Proofs.Console.World
import Mathlib.Data.List.Induction

/-!
# No edit is lost

When all events are handled, the window shows what the selected fragment yields when it
is loaded now, unless its manifest was removed: a removal changes the list of fragments
at most, so the controls of a manifest that is gone stay until the next change.  Runs are
left aside whose last reading of a fragment did not find its references; the operator then
goes on with the references of an earlier reading.

The invariant compares the files as they were when the fragment was read last with the
files as they are.  Whatever matters to the fragment and differs is either about to be
told, or is gone.  It says nothing as long as the last reading found no references, and a
reading that finds them makes it true again.
-/

namespace LiveShader.Console

open LiveShader.Files LiveShader.Fragment

/-! ## What the operator has to be told -/

section Invariant

variable {directory : Directory} {gone gone' : String → Prop} {found found' : Prop}
  {world : World} {file : String} {stem : List Char} {seen : Tree}

/--
Nothing more has to be told of a file: it reads as it did, or its change is about to be
told, or it is gone.
-/
def Noticed (directory : Directory) (gone : String → Prop) (seen : Tree) (world : World)
    (name : String) : Prop :=
  directory.reading world.files name = directory.reading seen name ∨
    Event.changed name ∈ world.pending ∨
      (∀ text, directory.reading world.files name ≠ .ok text) ∧ gone name

/-- The fragment was read from `seen`, and whatever differs by now was noticed. -/
structure Followed (directory : Directory) (gone : String → Prop) (seen : Tree)
    (world : World) (stem : List Char) (file : String) : Prop where
  tracks : Library.Tracks directory seen stem file world.operator.tracked
  shown : ∀ shown, fresh? (.of directory) seen file = some shown →
    world.shown.head? = some shown
  noticed : ∀ name ∈ world.operator.tracked, Noticed directory gone seen world name

/--
What holds of the selected fragment between any two steps, given whether the last reading found
its references.
-/
structure Attentive (directory : Directory) (gone : String → Prop) (found : Prop)
    (world : World) : Prop where
  library : world.operator.library = .of directory
  fragment : ∀ file, world.operator.selected = some file → ∃ stem, IsFragmentFile stem file
  follows : found → ∀ file, world.operator.selected = some file →
    ∃ stem, IsFragmentFile stem file ∧ ∃ seen, Followed directory gone seen world stem file

theorem Attentive.mono (attentive : Attentive directory gone found world)
    (grows : ∀ name, gone name → gone' name) (still : found' → found) :
    Attentive directory gone' found' world := by
  refine ⟨attentive.library, attentive.fragment, ?_⟩
  intro found file selected
  obtain ⟨stem, fragment, seen, followed⟩ := attentive.follows (still found) file selected
  refine ⟨stem, fragment, seen, followed.tracks, followed.shown, ?_⟩
  intro name member
  rcases followed.noticed name member with reads | told | ⟨unreadable, left⟩
  · exact Or.inl reads
  · exact Or.inr (Or.inl told)
  · exact Or.inr (Or.inr ⟨unreadable, grows name left⟩)

/-! ### Edits -/

theorem Noticed.edit {files : Tree} {edit : Edit}
    (made : edit.result? directory world.files = some files) (name : FileName)
    (grows : gone name → gone' name) (removes : edit = .remove name → gone' name)
    (noticed : Noticed directory gone seen world name) :
    Noticed directory gone' seen
      { world with files := files, pending := world.pending ++ (edit.notice directory).events }
      name := by
  rw [Noticed] at noticed ⊢
  dsimp only
  rcases Edit.reading_result made name with same | told | ⟨removed, unreadable⟩
  · rw [same]
    rcases noticed with reads | told | ⟨unreadable, left⟩
    · exact Or.inl reads
    · exact Or.inr (Or.inl (List.mem_append_left _ told))
    · exact Or.inr (Or.inr ⟨unreadable, grows left⟩)
  · exact Or.inr (Or.inl (List.mem_append_right _ told))
  · exact Or.inr (Or.inr ⟨unreadable, removes removed⟩)

theorem Attentive.edit {files : Tree} {edit : Edit}
    (made : edit.result? directory world.files = some files)
    (grows : ∀ name, gone name → gone' name)
    (removes : ∀ name : FileName, edit = .remove name → gone' name) (still : found' → found)
    (attentive : Attentive directory gone found world) :
    Attentive directory gone' found'
      { world with
        files := files
        pending := world.pending ++ (edit.notice directory).events } := by
  refine ⟨attentive.library, attentive.fragment, ?_⟩
  intro found file selected
  obtain ⟨stem, fragment, seen, followed⟩ := attentive.follows (still found) file selected
  refine ⟨stem, fragment, seen, followed.tracks, followed.shown, ?_⟩
  intro name member
  have named := followed.tracks.plain name member
  exact (followed.noticed name member).edit made ⟨name, named⟩ (grows name) (removes _)

/-! ### Turns -/

theorem Attentive.keeps {turn : Turn} (attentive : Attentive directory gone found world)
    (keeps : Keeps world.operator turn) (pending : List Event)
    (told : ∀ file, world.operator.selected = some file → ∀ name ∈ world.operator.tracked,
      Event.changed name ∈ world.pending → Event.changed name ∈ pending)
    (grows : ({ world with pending := pending }.take turn).shown = world.shown →
      ∀ name, gone name → gone' name) (still : found' → found) :
    Attentive directory gone' found' ({ world with pending := pending }.take turn) := by
  have same : ({ world with pending := pending }.take turn).operator.selected =
      world.operator.selected := keeps.selected
  have shown : ({ world with pending := pending }.take turn).shown = world.shown := by
    rw [World.take]
    rw [keeps.silent]
    rfl
  have tracked : ({ world with pending := pending }.take turn).operator.tracked =
      world.operator.tracked := keeps.tracked
  refine ⟨keeps.library.trans attentive.library, ?_, ?_⟩
  · rw [same]
    exact attentive.fragment
  · intro found file selected
    rw [same] at selected
    obtain ⟨stem, fragment, seen, followed⟩ := attentive.follows (still found) file selected
    refine ⟨stem, fragment, seen, ?_, ?_, ?_⟩
    · rw [tracked]
      exact followed.tracks
    · rw [shown]
      exact followed.shown
    · rw [tracked]
      intro name member
      rcases followed.noticed name member with reads | announced | ⟨unreadable, left⟩
      · exact Or.inl reads
      · exact Or.inr (Or.inl (told file selected name member announced))
      · exact Or.inr (Or.inr ⟨unreadable, grows shown name left⟩)

theorem Attentive.drops {turn : Turn} (attentive : Attentive directory gone found world)
    (drops : Drops world.operator turn) (pending : List Event) (gone' : String → Prop)
    (found' : Prop) :
    Attentive directory gone' found' ({ world with pending := pending }.take turn) := by
  refine ⟨drops.library.trans attentive.library, ?_, ?_⟩
  · intro file selected
    cases drops.selected.symm.trans selected
  · intro _ file selected
    cases drops.selected.symm.trans selected

/-- Whoever reads a fragment and finds its references follows its files as they are. -/
theorem attentive_of_reads {operator : Operator} {turn : Turn} (world : World)
    (library : operator.library = .of directory) (fragment : IsFragmentFile stem file)
    (reads : Reads operator world.files file turn) (pending : List Event)
    (finds : found' → World.Found directory ({ world with pending := pending }.take turn))
    (gone' : String → Prop) :
    Attentive directory gone' found' ({ world with pending := pending }.take turn) := by
  refine ⟨reads.library.trans library, ?_, ?_⟩
  · intro other selected
    cases reads.selected.symm.trans selected
    exact ⟨stem, fragment⟩
  · intro found other selected
    cases reads.selected.symm.trans selected
    obtain ⟨names, references⟩ :
        ∃ names, (Library.of directory).references world.files file = .ok names :=
      finds found file reads.selected
    have stored := reads.tracked
    have shown := reads.shown
    rw [library] at stored shown
    rw [references] at stored
    dsimp only at stored
    refine ⟨stem, fragment, world.files, ?_, ?_, fun _ _ => Or.inl rfl⟩
    · change Library.Tracks directory world.files stem file turn.operator.tracked
      rw [stored]
      exact Library.tracks_of_references fragment references
    · intro yields loads
      rw [World.take]
      rw [shown, loads]
      rfl

theorem Attentive.select (attentive : Attentive directory gone found world) (name : String)
    (grows : (world.take (world.operator.select (openPlace world.files) name)).shown =
      world.shown → ∀ name, gone name → gone' name)
    (finds : opens world.operator world.files name = true → found' →
      World.Found directory (world.take (world.operator.select (openPlace world.files) name)))
    (still : opens world.operator world.files name = false → found' → found) :
    Attentive directory gone' found'
      (world.take (world.operator.select (openPlace world.files) name)) := by
  rcases select_cases directory attentive.library world.files name with
    ⟨closed, keeps⟩ | ⟨opened, stem, file, fragment, reads⟩
  · exact attentive.keeps keeps world.pending (fun _ _ _ _ told => told) grows (still closed)
  · exact attentive_of_reads world attentive.library fragment reads world.pending (finds opened)
      gone'

theorem Attentive.deliver {event : Event} {pending : List Event}
    (attentive : Attentive directory gone found world) (next : world.pending = event :: pending)
    (grows : ({ world with pending := pending }.take
      (world.operator.onEvent (openPlace world.files) event)).shown = world.shown →
        ∀ name, gone name → gone' name)
    (finds : world.reads .deliver = true → found' → World.Found directory
      ({ world with pending := pending }.take
        (world.operator.onEvent (openPlace world.files) event)))
    (still : world.reads .deliver = false → found' → found) :
    Attentive directory gone' found' ({ world with pending := pending }.take
      (world.operator.onEvent (openPlace world.files) event)) := by
  rw [World.reads] at finds still
  rw [next] at finds still
  cases event with
  | listChanged =>
      have told : ∀ name, Event.changed name ∈ world.pending → Event.changed name ∈ pending := by
        intro name member
        rw [next] at member
        exact (List.mem_cons.mp member).resolve_left (by simp)
      rcases listChanged_cases directory attentive.library world.files with
        ⟨closed, keeps | drops⟩ | ⟨opened, stem, file, fragment, reads⟩
      · exact attentive.keeps keeps pending (fun _ _ name _ => told name) grows (still closed)
      · exact attentive.drops drops pending gone' found'
      · apply attentive_of_reads world _ fragment reads pending (finds opened) gone'
        exact (refresh_library world.operator world.files).trans attentive.library
  | changed changed =>
      rcases changed_cases world.operator world.files changed with
        ⟨foreign, keeps⟩ | ⟨known, file, selected, reads⟩
      · refine attentive.keeps keeps pending ?_ grows (still ?_)
        · intro file selected name member announced
          rw [next] at announced
          rcases List.mem_cons.mp announced with same | later
          · cases same
            rcases foreign with untracked | unselected
            · exact absurd member untracked
            · cases selected.symm.trans unselected
          · exact later
        · rcases foreign with untracked | unselected
          · simp [untracked]
          · simp [unselected]
      · obtain ⟨stem, fragment⟩ := attentive.fragment file selected
        apply attentive_of_reads world attentive.library fragment reads pending (finds _) gone'
        simp [known, selected]

/-! ### Steps -/

/--
Every step keeps the operator attentive: one that reads a fragment if it finds the references,
and any other if the last reading did.
-/
theorem Attentive.step (attentive : Attentive directory gone found world) (step : Step)
    (grows : (world.step directory step).shown = world.shown → ∀ name, gone name → gone' name)
    (removes : ∀ (name : FileName) files, step = .edit (.remove name) →
      (Edit.remove name).result? directory world.files = some files → gone' name)
    (finds : world.reads step = true → found' → (world.step directory step).Found directory)
    (still : world.reads step = false → found' → found) :
    Attentive directory gone' found' (world.step directory step) := by
  cases step with
  | edit edit =>
      simp only [World.step] at grows ⊢
      cases made : edit.result? directory world.files with
      | none =>
          rw [made] at grows
          exact attentive.mono (grows rfl) (still rfl)
      | some files =>
          rw [made] at grows
          refine attentive.edit made (grows rfl) ?_ (still rfl)
          rintro name rfl
          exact removes name files rfl made
  | deliver =>
      cases next : world.pending with
      | nil =>
          have unread : world.reads .deliver = false := by
            simp only [World.reads]
            rw [next]
          simp only [World.step] at grows ⊢
          rw [next] at grows ⊢
          exact attentive.mono (grows rfl) (still unread)
      | cons event pending =>
          have stepped : world.step directory .deliver =
              { world with pending := pending }.take
                (world.operator.onEvent (openPlace world.files) event) := by
            simp only [World.step]
            rw [next]
          rw [stepped] at grows finds ⊢
          exact attentive.deliver next grows finds still
  | line text =>
      rcases onLine_cases world.operator world.files text with
        ⟨other, keeps⟩ | ⟨name, loads, selects⟩
      · have unread : world.reads (.line text) = false := by
          simp only [World.reads]
        exact attentive.keeps keeps world.pending (fun _ _ _ _ told => told) grows (still unread)
      · have reads : world.reads (.line text) = opens world.operator world.files name := by
          simp only [World.reads]
          rw [loads]
        rw [reads] at finds still
        simp only [World.step] at grows finds ⊢
        rw [selects] at grows finds ⊢
        exact attentive.select name grows finds still
  | signal signal =>
      exact attentive.keeps (onSignal_keeps world.operator signal) world.pending
        (fun _ _ _ _ told => told) grows (still rfl)
  | refresh =>
      rcases refresh_cases world.operator world.files with keeps | drops
      · exact attentive.keeps keeps world.pending (fun _ _ _ _ told => told) grows (still rfl)
      · exact attentive.drops drops world.pending gone' found'
  | select name => exact attentive.select name grows finds still

end Invariant

/-! ## Runs -/

section Runs

variable {directory : Directory} {files : Tree}

/-- A file was removed in the course of the steps, and nothing was shown since. -/
def RemovedUnshown (directory : Directory) (files : Tree) (steps : List Step) (name : String) :
    Prop :=
  ∃ before after, ∃ removed : FileName, steps = before ++ .edit (.remove removed) :: after ∧
    removed.val = name ∧
      ((Edit.remove removed).result? directory (World.run directory files before).files).isSome ∧
        (World.run directory files steps).shown = (World.run directory files before).shown

theorem attentive_run (steps : List Step) :
    Attentive directory (RemovedUnshown directory files steps) (LastFound directory files steps)
      (World.run directory files steps) := by
  induction steps using List.reverseRecOn with
  | nil =>
      refine ⟨rfl, ?_, ?_⟩
      · intro file selected
        cases selected
      · intro _ file selected
        cases selected
  | append_singleton steps step ih =>
      rw [run_concat]
      apply ih.step step
      · intro unshown name
        rintro ⟨early, late, removed, rfl, named, accepted, silent⟩
        refine ⟨early, late ++ [step], removed, by simp, named, accepted, ?_⟩
        rw [run_concat, unshown, silent]
      · intro name edited same made
        refine ⟨steps, [], name, by rw [same], rfl, by rw [made]; rfl, ?_⟩
        rw [run_concat, same]
        simp only [World.step]
        rw [made]
      · intro reads found
        rw [← run_concat]
        exact (lastFound_concat_of_reads reads).mp found
      · exact fun unread => (lastFound_concat_of_unread unread).mp

/--
When every change has been handled, the window was last given what the selected fragment
yields now, if it loads and the last reading of a fragment found its references; only a
manifest that was removed may still show.
-/
theorem shown_eq_fresh (directory : Directory) (files : Tree) (steps : List Step)
    (found : LastFound directory files steps)
    (handled : (World.run directory files steps).pending = [])
    {file : String} (selected : (World.run directory files steps).operator.selected = some file)
    {shown : Shown}
    (loads : fresh? (.of directory) (World.run directory files steps).files file = some shown) :
    (World.run directory files steps).shown.head? = some shown ∨
      (World.run directory files steps).files.readText
          (manifestPath (Path.join directory.path file)) = .error .notFound ∧
        RemovedUnshown directory files steps
          (Library.lastName (manifestPath (Path.join directory.path file))) := by
  obtain ⟨loaded, made, yields⟩ := fresh?_eq_some_iff.mp loads
  obtain ⟨stem, fragment, seen, followed⟩ := (attentive_run steps).follows found file selected
  have readable : ∀ name ∈ (World.run directory files steps).operator.tracked, ∀ text,
      directory.reading (World.run directory files steps).files name = .ok text →
        directory.reading seen name = .ok text := by
    intro name member text read
    rcases followed.noticed name member with same | told | ⟨unreadable, _⟩
    · rwa [← same]
    · rw [handled] at told
      cases told
    · exact absurd read (unreadable text)
  rw [fragment.manifestPath_join, Library.lastName_join _ fragment.plain_manifestName]
  rcases followed.noticed _ followed.tracks.manifest with same | told | ⟨unreadable, gone⟩
  · left
    apply followed.shown
    have before := Library.load_of_tracks fragment followed.tracks
      (fun name member _ => readable name member) same made
    exact fresh?_eq_some_iff.mpr ⟨loaded, before, yields⟩
  · rw [handled] at told
    cases told
  · right
    refine ⟨?_, gone⟩
    obtain ⟨_, _, controls, _, declared, _⟩ := (Library.load_eq_ok_iff fragment).mp made
    rw [← fragment.manifestPath_join]
    apply Library.manifest_absent declared
    intro text read
    rw [fragment.manifestPath_join] at read
    exact unreadable text read

theorem run_edit_operator (steps : List Step) (edit : Edit) :
    (World.run directory files (steps ++ [.edit edit])).operator =
      (World.run directory files steps).operator := by
  rw [run_concat]
  simp only [World.step]
  split <;> rfl

/-- A selected fragment that is tracked stays so when it has changed, however it reads then. -/
theorem tracked_deliver {steps : List Step} {file : String} {stem : List Char}
    {pending : List Event} (fragment : IsFragmentFile stem file)
    (next : (World.run directory files steps).pending = .changed file :: pending)
    (selected : (World.run directory files steps).operator.selected = some file)
    (tracked : file ∈ (World.run directory files steps).operator.tracked) :
    (World.run directory files (steps ++ [.deliver])).operator.selected = some file ∧
      file ∈ (World.run directory files (steps ++ [.deliver])).operator.tracked := by
  have library : (World.run directory files steps).operator.library = .of directory :=
    (attentive_run steps).library
  rw [run_concat]
  simp only [World.step]
  rw [next]
  rcases changed_cases (World.run directory files steps).operator
      (World.run directory files steps).files file with
    ⟨untracked | unselected, _⟩ | ⟨_, other, same, reads⟩
  · exact absurd tracked untracked
  · cases selected.symm.trans unselected
  · cases selected.symm.trans same
    refine ⟨reads.selected, ?_⟩
    change file ∈ ((World.run directory files steps).operator.onEvent _ _).operator.tracked
    rw [reads.tracked, library]
    split
    · rename_i names references
      exact (Library.tracks_of_references fragment references).file
    · exact tracked

end Runs

/-! ## A fragment and its manifest -/

/-- A directory of shaders. -/
def shaders : Directory := ⟨["shaders"], by
  intro name member
  rw [List.mem_singleton.mp member]
  constructor <;> decide⟩

/-- The file of a fragment. -/
def plasma : FileName := ⟨"plasma.frag", by constructor <;> decide⟩

/-- The manifest beside it. -/
def plasmaManifest : FileName := ⟨"plasma.toml", by constructor <;> decide⟩

/-- The fragment with a manifest that declares one control. -/
def plasmaFiles : Tree := ⟨[
  (["shaders"], .directory),
  (["shaders", "plasma.frag"], .file (.text "void main() {}\n")),
  (["shaders", "plasma.toml"],
    .file (.text "[[controls]]\nname = \"pulse\"\ntype = \"bool\"\n"))], []⟩

/-- The fragment is loaded, written as what is no text, and then written again. -/
def writtenSteps : List Step :=
  [.line "load plasma", .edit (.write plasma (.bytes [255])), .deliver,
    .edit (.write plasma (.text "void main() { }\n")), .deliver]

/-- The fragment is loaded, and then its manifest is removed. -/
def removedSteps : List Step := [.line "load plasma", .edit (.remove plasmaManifest)]

/--
Nothing tells the operator that the manifest is gone: the window keeps its control,
though the fragment loads without any.
-/
theorem removedManifest_stillShown :
    let world := World.run shaders plasmaFiles removedSteps
    world.pending = [] ∧ world.operator.selected = some "plasma.frag" ∧
      (fresh? (.of shaders) world.files "plasma.frag").isSome = true ∧
        world.shown.head? ≠ fresh? (.of shaders) world.files "plasma.frag" := by
  intro world
  have controls : (fresh? (.of shaders) world.files "plasma.frag").map
      (fun shown => shown.controls.length) = some 0 := by decide +kernel
  have kept : world.shown.head?.map (fun shown => shown.controls.length) = some 1 := by
    decide +kernel
  refine ⟨by decide +kernel, by decide +kernel, ?_, ?_⟩
  · cases loads : fresh? (.of shaders) world.files "plasma.frag" with
    | none =>
        rw [loads] at controls
        cases controls
    | some shown => rfl
  · intro same
    rw [same, controls] at kept
    cases kept

/-- Once it is loaded the fragment is tracked, also while it is no text. -/
theorem tracked_written :
    (World.run shaders plasmaFiles (writtenSteps.take 4)).operator.selected =
        some "plasma.frag" ∧
      "plasma.frag" ∈ (World.run shaders plasmaFiles (writtenSteps.take 4)).operator.tracked := by
  have loaded : (World.run shaders plasmaFiles (writtenSteps.take 1)).operator.selected =
      some "plasma.frag" := by decide +kernel
  have found : LastFound shaders plasmaFiles (writtenSteps.take 1) := by
    apply lastFound_nil.concat
    intro _
    apply World.found_of_isOk loaded
    decide +kernel
  obtain ⟨stem, fragment, _, followed⟩ :=
    (attentive_run (writtenSteps.take 1)).follows found "plasma.frag" loaded
  have next : (World.run shaders plasmaFiles (writtenSteps.take 2)).pending =
      [.changed "plasma.frag"] := by decide +kernel
  have edited : (World.run shaders plasmaFiles (writtenSteps.take 2)).operator =
      (World.run shaders plasmaFiles (writtenSteps.take 1)).operator :=
    run_edit_operator (writtenSteps.take 1) _
  have mended : (World.run shaders plasmaFiles (writtenSteps.take 4)).operator =
      (World.run shaders plasmaFiles (writtenSteps.take 3)).operator :=
    run_edit_operator (writtenSteps.take 3) _
  rw [mended]
  apply tracked_deliver fragment next
  · rw [edited]
    exact loaded
  · rw [edited]
    exact followed.tracks.file

theorem next_written : (World.run shaders plasmaFiles (writtenSteps.take 4)).pending =
    [.changed "plasma.frag"] := by
  decide +kernel

theorem selected_written :
    (World.run shaders plasmaFiles writtenSteps).operator.selected = some "plasma.frag" := by
  change (World.run shaders plasmaFiles (writtenSteps.take 4 ++ [.deliver])).operator.selected =
    some "plasma.frag"
  rw [run_concat]
  simp only [World.step]
  rw [next_written]
  exact (changed_selected _ _ _).trans tracked_written.1

theorem lastFound_written : LastFound shaders plasmaFiles writtenSteps := by
  have reads : (World.run shaders plasmaFiles (writtenSteps.take 4)).reads .deliver = true := by
    simp only [World.reads]
    rw [next_written]
    simp [tracked_written.1, tracked_written.2]
  apply (lastFound_concat_of_reads reads).mpr
  apply World.found_of_isOk selected_written
  decide +kernel

/-- The window shows the fragment as it is, though a reading in between found nothing. -/
theorem shown_written :
    (fresh? (.of shaders) (World.run shaders plasmaFiles (writtenSteps.take 3)).files
        "plasma.frag").isNone = true ∧
      (World.run shaders plasmaFiles writtenSteps).pending = [] ∧
      ∃ shown, (World.run shaders plasmaFiles writtenSteps).shown.head? = some shown ∧
        fresh? (.of shaders) (World.run shaders plasmaFiles writtenSteps).files "plasma.frag" =
          some shown := by
  have handled : (World.run shaders plasmaFiles writtenSteps).pending = [] := by decide +kernel
  refine ⟨by decide +kernel, handled, ?_⟩
  cases loads : fresh? (.of shaders) (World.run shaders plasmaFiles writtenSteps).files
      "plasma.frag" with
  | none => exact absurd loads (by decide +kernel)
  | some shown =>
      rcases shown_eq_fresh shaders plasmaFiles writtenSteps lastFound_written handled
        selected_written loads with current | ⟨absent, _⟩
      · exact ⟨shown, current, rfl⟩
      · exact absurd absent (by decide +kernel)

end LiveShader.Console
