import LiveShader.Console.Operator
import LiveShader.Proofs.Fragment.Loading

/-!
# What a turn of the operator does

A turn leaves the selection with its references as it was, or gives it up, or reads the
selected fragment.  A fragment that is read is handed to the window exactly if it loads,
and its references are looked up anew unless that fails.
-/

namespace LiveShader.Console

open LiveShader.Files LiveShader.Fragment

/-- What the window is given to show: the text of a fragment and its controls. -/
structure Shown where
  content : String
  controls : List Control.Spec
  deriving DecidableEq

/-- What a fragment yields when it is loaded now, if it loads. -/
def fresh? (library : Library) (files : Tree) (file : String) : Option Shown :=
  match library.load files .full file with
  | .error _ => none
  | .ok loaded =>
      match Manifest.Declaration.toSpecs loaded.controls with
      | .error _ => none
      | .ok controls => some ⟨loaded.content, controls⟩

theorem fresh?_eq_some_iff {library : Library} {files : Tree} {file : String} {shown : Shown} :
    fresh? library files file = some shown ↔
      ∃ loaded, library.load files .full file = .ok loaded ∧
        Manifest.Declaration.toSpecs loaded.controls = .ok shown.controls ∧
          loaded.content = shown.content := by
  rw [fresh?]
  constructor
  · intro yields
    split at yields
    · cases yields
    · rename_i loaded loads
      split at yields
      · cases yields
      · rename_i controls declares
        cases yields
        exact ⟨loaded, loads, declares, rfl⟩
  · rintro ⟨loaded, loads, declares, content⟩
    rw [loads]
    dsimp only
    rw [declares, content]

/-- What a turn hands to the window to show. -/
def Turn.shown? (turn : Turn) : Option Shown :=
  match turn.sent with
  | some (.load content controls) => some ⟨content, controls⟩
  | _ => none

/-- The place of an operator whose window is open. -/
def openPlace (files : Tree) : Place := ⟨files, true⟩

/-! ## Kinds of turns -/

/-- A turn that leaves the selection and its references as they are. -/
structure Keeps (operator : Operator) (turn : Turn) : Prop where
  library : turn.operator.library = operator.library
  selected : turn.operator.selected = operator.selected
  tracked : turn.operator.tracked = operator.tracked
  silent : turn.shown? = none

/-- A turn that gives up the selection. -/
structure Drops (operator : Operator) (turn : Turn) : Prop where
  library : turn.operator.library = operator.library
  selected : turn.operator.selected = none
  silent : turn.shown? = none

/-- A turn that reads a fragment. -/
structure Reads (operator : Operator) (files : Tree) (file : String) (turn : Turn) : Prop where
  library : turn.operator.library = operator.library
  selected : turn.operator.selected = some file
  tracked : turn.operator.tracked =
    match operator.library.references files file with
    | .ok tracked => tracked
    | .error _ => operator.tracked
  shown : turn.shown? = fresh? operator.library files file

/-! ## Reading the selected fragment -/

section Turns

variable {operator : Operator} {files : Tree} {file : String}

theorem track_library (operator : Operator) (files : Tree) (file : String) :
    (operator.track files file).library = operator.library := by
  rw [Operator.track]
  split <;> rfl

theorem track_selected (operator : Operator) (files : Tree) (file : String) :
    (operator.track files file).selected = operator.selected := by
  rw [Operator.track]
  split <;> rfl

theorem track_tracked (operator : Operator) (files : Tree) (file : String) :
    (operator.track files file).tracked =
      match operator.library.references files file with
      | .ok tracked => tracked
      | .error _ => operator.tracked := by
  rw [Operator.track]
  cases operator.library.references files file <;> rfl

theorem track_current (operator : Operator) (files : Tree) (file : String) :
    (operator.track files file).current = operator.current := by
  rw [Operator.track]
  split <;> rfl

/-- A reading hands over a load and makes its fragment current, or does neither. -/
theorem reload_cases (place : Place) (selected : operator.selected = some file) :
    (operator.reload place).operator = operator.track place.files file ∧
        (operator.reload place).sent = none ∨
      ∃ loaded controls,
        (operator.reload place).operator =
            { operator.track place.files file with current := some loaded } ∧
          (operator.reload place).sent = some (.load loaded.content controls) := by
  rw [Operator.reload, selected]
  dsimp only
  split
  · exact Or.inl ⟨rfl, rfl⟩
  · rename_i loaded loads
    split
    · exact Or.inl ⟨rfl, rfl⟩
    · rename_i controls declares
      rw [hand]
      split
      · exact Or.inr ⟨loaded, controls, rfl, rfl⟩
      · exact Or.inl ⟨rfl, rfl⟩

/-- A reading changes the references, and what is current, and nothing else. -/
theorem reload_operator (place : Place) (selected : operator.selected = some file) :
    ∃ current, (operator.reload place).operator =
      { operator.track place.files file with current := current } := by
  rcases reload_cases place selected with ⟨after, _⟩ | ⟨loaded, _, after, _⟩
  · exact ⟨(operator.track place.files file).current, after⟩
  · exact ⟨some loaded, after⟩

theorem reload_shown (files : Tree) (selected : operator.selected = some file) :
    (operator.reload (openPlace files)).shown? = fresh? operator.library files file := by
  rw [Operator.reload, fresh?]
  rw [selected]
  dsimp only [openPlace]
  rw [track_library]
  cases operator.library.load files .full file with
  | error error => rfl
  | ok loaded =>
      dsimp only
      cases Manifest.Declaration.toSpecs loaded.controls <;> rfl

theorem reload_reads (files : Tree) (selected : operator.selected = some file) :
    Reads operator files file (operator.reload (openPlace files)) := by
  obtain ⟨current, after⟩ := reload_operator (openPlace files) selected
  constructor
  · rw [after]
    exact track_library operator files file
  · rw [after]
    exact (track_selected operator files file).trans selected
  · rw [after]
    exact track_tracked operator files file
  · exact reload_shown files selected

theorem keeps_quiet (operator : Operator) : Keeps operator (.quiet operator) :=
  ⟨rfl, rfl, rfl, rfl⟩

theorem keeps_printing (operator : Operator) (printed : List Printed) :
    Keeps operator (.printing operator printed) :=
  ⟨rfl, rfl, rfl, rfl⟩

theorem reload_keeps (selected : operator.selected = none) (place : Place) :
    Keeps operator (operator.reload place) := by
  rw [Operator.reload]
  rw [selected]
  exact keeps_quiet operator

/-! ## Selecting a fragment -/

/-- Whether a name is that of a fragment, so that it can be selected. -/
def opens (operator : Operator) (files : Tree) (name : String) : Bool :=
  (operator.library.resolve files name).isOk

/-- Whether nothing is selected and the first fragment of the list can be. -/
def opensFirst (operator : Operator) (files : Tree) : Bool :=
  match operator.selected, operator.fragments with
  | none, first :: _ => opens operator files first
  | _, _ => false

/-- A fragment is read at once if it can be selected; otherwise nothing happens. -/
theorem select_cases (directory : Directory) (library : operator.library = .of directory)
    (files : Tree) (name : String) :
    opens operator files name = false ∧
        Keeps operator (operator.select (openPlace files) name) ∨
      opens operator files name = true ∧ ∃ stem file, IsFragmentFile stem file ∧
        Reads operator files file (operator.select (openPlace files) name) := by
  rw [Operator.select, opens]
  dsimp only [openPlace]
  split
  · rename_i error refused
    exact Or.inl ⟨by rw [refused]; rfl, keeps_printing operator _⟩
  · rename_i path resolved
    right
    refine ⟨by rw [resolved]; rfl, ?_⟩
    rw [library] at resolved
    obtain ⟨stem, file, fragment, _, rfl⟩ := Library.exists_file_of_resolve resolved
    refine ⟨stem, file, fragment, ?_⟩
    rw [Library.lastName_join directory.path fragment.plain]
    have selected : ({ operator with selected := some file } : Operator).selected = some file :=
      rfl
    obtain ⟨library', selected', tracked, shown⟩ := reload_reads files selected
    exact ⟨library', selected', tracked, shown⟩

/-! ## Following changes -/

/-- A list that is looked up again is kept, and a fragment that is not on it is given up. -/
theorem refresh_eq (operator : Operator) (files : Tree) : ∃ fragments,
    operator.refresh files = { operator with fragments := fragments } ∨
      operator.refresh files = { operator with fragments := fragments }.deselect := by
  rw [Operator.refresh]
  cases operator.library.list files with
  | error error =>
      refine ⟨operator.fragments, ?_⟩
      dsimp only
      split
      · split
        · exact Or.inl rfl
        · exact Or.inr rfl
      · exact Or.inl rfl
  | ok fragments =>
      refine ⟨fragments, ?_⟩
      dsimp only
      split
      · split
        · exact Or.inl rfl
        · exact Or.inr rfl
      · exact Or.inl rfl

/-- The operator after the list was looked up keeps its selection or gives it up. -/
theorem refresh_cases (operator : Operator) (files : Tree) :
    Keeps operator (.quiet (operator.refresh files)) ∨
      Drops operator (.quiet (operator.refresh files)) := by
  obtain ⟨fragments, kept | dropped⟩ := refresh_eq operator files
  · rw [kept]
    exact Or.inl ⟨rfl, rfl, rfl, rfl⟩
  · rw [dropped]
    exact Or.inr ⟨rfl, rfl, rfl⟩

theorem refresh_current (operator : Operator) (files : Tree) :
    (operator.refresh files).current = operator.current := by
  obtain ⟨fragments, kept | dropped⟩ := refresh_eq operator files
  · rw [kept]
  · rw [dropped]
    rfl

theorem refresh_library (operator : Operator) (files : Tree) :
    (operator.refresh files).library = operator.library := by
  rcases refresh_cases operator files with keeps | drops
  · exact keeps.library
  · exact drops.library

theorem selectFirst_cases (directory : Directory) (library : operator.library = .of directory)
    (files : Tree) :
    opensFirst operator files = false ∧
        Keeps operator (operator.selectFirst (openPlace files)) ∨
      opensFirst operator files = true ∧ ∃ stem file, IsFragmentFile stem file ∧
        Reads operator files file (operator.selectFirst (openPlace files)) := by
  rw [Operator.selectFirst, opensFirst]
  cases operator.selected with
  | some file => exact Or.inl ⟨rfl, keeps_quiet operator⟩
  | none =>
      cases operator.fragments with
      | nil => exact Or.inl ⟨rfl, keeps_quiet operator⟩
      | cons first others => exact select_cases directory library files first

/-- A change of the list reads a fragment only if none is selected any more. -/
theorem listChanged_cases (directory : Directory) (library : operator.library = .of directory)
    (files : Tree) :
    opensFirst (operator.refresh files) files = false ∧
        (Keeps operator (operator.onEvent (openPlace files) .listChanged) ∨
          Drops operator (operator.onEvent (openPlace files) .listChanged)) ∨
      opensFirst (operator.refresh files) files = true ∧ ∃ stem file, IsFragmentFile stem file ∧
        Reads (operator.refresh files) files file
          (operator.onEvent (openPlace files) .listChanged) := by
  have library' := (refresh_library operator files).trans library
  rcases selectFirst_cases directory library' files with ⟨closed, again⟩ | opened
  · refine Or.inl ⟨closed, ?_⟩
    rcases refresh_cases operator files with keeps | drops
    · exact Or.inl ⟨again.library.trans keeps.library, again.selected.trans keeps.selected,
        again.tracked.trans keeps.tracked, again.silent⟩
    · exact Or.inr ⟨again.library.trans drops.library, again.selected.trans drops.selected,
        again.silent⟩
  · exact Or.inr opened

/-- A change of a file reads the selected fragment exactly if the file matters to it. -/
theorem changed_cases (operator : Operator) (files : Tree) (name : String) :
    (name ∉ operator.tracked ∨ operator.selected = none) ∧
        Keeps operator (operator.onEvent (openPlace files) (.changed name)) ∨
      name ∈ operator.tracked ∧ ∃ file, operator.selected = some file ∧
        Reads operator files file (operator.onEvent (openPlace files) (.changed name)) := by
  simp only [Operator.onEvent]
  split
  · rename_i known
    cases selected : operator.selected with
    | none => exact Or.inl ⟨Or.inr rfl, reload_keeps selected _⟩
    | some file =>
        exact Or.inr ⟨List.contains_iff_mem.mp known, file, rfl, reload_reads files selected⟩
  · rename_i unknown
    refine Or.inl ⟨Or.inl ?_, keeps_quiet operator⟩
    exact fun known => unknown (List.contains_iff_mem.mpr known)

/-- A change of a file leaves the selection as it is. -/
theorem changed_selected (operator : Operator) (files : Tree) (name : String) :
    (operator.onEvent (openPlace files) (.changed name)).operator.selected =
      operator.selected := by
  rcases changed_cases operator files name with ⟨_, keeps⟩ | ⟨_, file, selected, reads⟩
  · exact keeps.selected
  · exact reads.selected.trans selected.symm

/-! ## Lines and signals -/

theorem onSignal_keeps (operator : Operator) (signal : Window.Signal) :
    Keeps operator (operator.onSignal signal) := by
  cases signal <;> exact ⟨rfl, rfl, rfl, rfl⟩

/-- A line of the console that does not say to load a fragment changes nothing. -/
theorem onLine_eq (operator : Operator) (place : Place) (line : String) :
    (∀ name, Command.ofLine line ≠ .ok (some (.load name))) ∧
        (operator.onLine place line).operator = operator ∧
        (operator.onLine place line).shown? = none ∨
      ∃ name, Command.ofLine line = .ok (some (.load name)) ∧
        operator.onLine place line = operator.select place name := by
  have handed : ∀ command, (∀ source controls, command ≠ .load source controls) →
      (hand place operator operator command).operator = operator ∧
        (hand place operator operator command).shown? = none := by
    intro command other
    rw [hand]
    split
    · refine ⟨rfl, ?_⟩
      rw [Turn.shown?]
      split
      · rename_i source controls sent
        exact absurd (Option.some.inj sent) (other source controls)
      · rfl
    · exact ⟨rfl, rfl⟩
  rw [Operator.onLine]
  cases read : Command.ofLine line with
  | error error => exact Or.inl ⟨by simp, rfl, rfl⟩
  | ok command =>
      cases command with
      | none => exact Or.inl ⟨by simp, rfl, rfl⟩
      | some command =>
          cases command with
          | load name => exact Or.inr ⟨name, rfl, rfl⟩
          | list | help | quit => exact Or.inl ⟨by simp, rfl, rfl⟩
          | _ => exact Or.inl ⟨by simp, handed _ (by simp)⟩

/-- A line of the console reads a fragment only if it says to load it. -/
theorem onLine_cases (operator : Operator) (files : Tree) (line : String) :
    (∀ name, Command.ofLine line ≠ .ok (some (.load name))) ∧
        Keeps operator (operator.onLine (openPlace files) line) ∨
      ∃ name, Command.ofLine line = .ok (some (.load name)) ∧
        operator.onLine (openPlace files) line = operator.select (openPlace files) name := by
  rcases onLine_eq operator (openPlace files) line with ⟨other, same, silent⟩ | loads
  · exact Or.inl ⟨other, congrArg Operator.library same, congrArg Operator.selected same,
      congrArg Operator.tracked same, silent⟩
  · exact Or.inr loads

end Turns

end LiveShader.Console
