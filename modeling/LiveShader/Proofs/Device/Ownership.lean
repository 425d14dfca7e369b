import LiveShader.Proofs.Device.Journal

/-!
# Who owns the objects of a device

A stage or a program is open from the entry of a journal that creates it to the
entry that releases it.  A journal is orderly if every entry was allowed when it was
written: objects are new when they are created and open when they are used or
released, and no program is linked while another one is open.  Each call keeps a journal
orderly and changes the open objects in its own way; a build gives back its stages on
each of its ways out, and releases no program.
-/

namespace LiveShader.Device

/-! ## Open objects -/

namespace Entry

/-- The numbers of the objects that an entry creates or releases. -/
def numbers : Entry → List Nat
  | .compiled stage => [stage]
  | .releasedStage stage => [stage]
  | .linked _ _ program => [program]
  | .releasedProgram program => [program]
  | _ => []

/-- Whether an entry creates a program. -/
def Creates (entry : Entry) (program : Nat) : Prop :=
  ∃ vertex fragment, entry = .linked vertex fragment program

end Entry

/-- A stage that was compiled and not released. -/
def OpenStage (entries : List Entry) (stage : Nat) : Prop :=
  .compiled stage ∈ entries ∧ .releasedStage stage ∉ entries

/-- A program that was linked and not released. -/
def OpenProgram (entries : List Entry) (program : Nat) : Prop :=
  (∃ entry ∈ entries, entry.Creates program) ∧ .releasedProgram program ∉ entries

/-- A number that no object had so far. -/
def Unused (entries : List Entry) (number : Nat) : Prop :=
  ∀ entry ∈ entries, number ∉ entry.numbers

/-- Whether an entry may follow the entries before it. -/
def Allowed (past : List Entry) : Entry → Prop
  | .compiled stage => Unused past stage
  | .releasedStage stage => OpenStage past stage
  | .linked vertex fragment program =>
      OpenStage past vertex ∧ OpenStage past fragment ∧ Unused past program ∧
        ∀ other, ¬ OpenProgram past other
  | .linkFailed vertex fragment => OpenStage past vertex ∧ OpenStage past fragment
  | .releasedProgram program => OpenProgram past program
  | .bound program => OpenProgram past program
  | _ => True

/-- Every entry was allowed when it was written. -/
def Orderly (entries : List Entry) : Prop :=
  ∀ entry past, entry :: past <:+ entries → Allowed past entry

theorem orderly_nil : Orderly [] := by
  intro entry past suffix
  exact absurd (List.suffix_nil.mp suffix) (by simp)

theorem Orderly.cons {entry : Entry} {past : List Entry} (orderly : Orderly past)
    (allowed : Allowed past entry) : Orderly (entry :: past) := by
  intro later earlier suffix
  rcases List.suffix_cons_iff.mp suffix with equal | old
  · cases equal
    exact allowed
  · exact orderly later earlier old

theorem Orderly.suffix {past entries : List Entry} (orderly : Orderly entries)
    (suffix : past <:+ entries) : Orderly past := by
  intro entry earlier old
  exact orderly entry earlier (old.trans suffix)

section OpenObjects

variable {past : List Entry} {entry : Entry} {stage program other number : Nat}

/-- An entry that creates and releases nothing changes no open stage. -/
theorem openStage_cons_of_quiet (quiet : entry.numbers = []) :
    OpenStage (entry :: past) stage ↔ OpenStage past stage := by
  cases entry <;> simp_all [Entry.numbers, OpenStage]

theorem openProgram_cons_of_quiet (quiet : entry.numbers = []) :
    OpenProgram (entry :: past) program ↔ OpenProgram past program := by
  cases entry <;> simp_all [Entry.numbers, OpenProgram, Entry.Creates]

theorem openStage_compiled (unused : Unused past stage) :
    OpenStage (.compiled stage :: past) other ↔ other = stage ∨ OpenStage past other := by
  have unreleased : .releasedStage stage ∉ past := by
    intro released
    exact unused _ released (by simp [Entry.numbers])
  simp only [OpenStage]
  by_cases same : other = stage
  · subst same
    simp [unreleased]
  · simp [same]

theorem openStage_releasedStage :
    OpenStage (.releasedStage stage :: past) other ↔ OpenStage past other ∧ other ≠ stage := by
  simp [OpenStage]
  tauto

theorem openStage_linked {vertex fragment : Nat} :
    OpenStage (.linked vertex fragment program :: past) other ↔ OpenStage past other := by
  simp [OpenStage]

theorem openStage_releasedProgram :
    OpenStage (.releasedProgram program :: past) other ↔ OpenStage past other := by
  simp [OpenStage]

theorem openProgram_compiled :
    OpenProgram (.compiled stage :: past) other ↔ OpenProgram past other := by
  simp [OpenProgram, Entry.Creates]

theorem openProgram_releasedStage :
    OpenProgram (.releasedStage stage :: past) other ↔ OpenProgram past other := by
  simp [OpenProgram, Entry.Creates]

theorem openProgram_linked {vertex fragment : Nat} (unused : Unused past program) :
    OpenProgram (.linked vertex fragment program :: past) other ↔
      other = program ∨ OpenProgram past other := by
  have unreleased : .releasedProgram program ∉ past := by
    intro released
    exact unused _ released (by simp [Entry.numbers])
  by_cases same : other = program
  · subst same
    refine iff_of_true ⟨⟨_, List.mem_cons_self, vertex, fragment, rfl⟩, ?_⟩ (Or.inl rfl)
    simpa using unreleased
  · have differs : program ≠ other := Ne.symm same
    simp [OpenProgram, Entry.Creates, same, differs]

theorem openProgram_releasedProgram :
    OpenProgram (.releasedProgram program :: past) other ↔
      OpenProgram past other ∧ other ≠ program := by
  simp [OpenProgram, Entry.Creates]
  tauto

end OpenObjects

/-- In an orderly journal there is never more than one open program. -/
theorem Orderly.openProgram_unique {entries : List Entry} (orderly : Orderly entries)
    {first second : Nat} (open₁ : OpenProgram entries first)
    (open₂ : OpenProgram entries second) : first = second := by
  induction entries with
  | nil => simp [OpenProgram] at open₁
  | cons entry past ih =>
      have before : Orderly past := orderly.suffix (List.suffix_cons entry past)
      have allowed : Allowed past entry := orderly entry past List.suffix_rfl
      cases entry with
      | linked vertex fragment program =>
          rcases allowed with ⟨_, _, unused, none⟩
          rw [openProgram_linked unused] at open₁ open₂
          rcases open₁ with rfl | open₁
          · rcases open₂ with rfl | open₂
            · rfl
            · exact absurd open₂ (none second)
          · exact absurd open₁ (none first)
      | releasedProgram program =>
          rw [openProgram_releasedProgram] at open₁ open₂
          exact ih before open₁.1 open₂.1
      | compiled stage =>
          rw [openProgram_compiled] at open₁ open₂
          exact ih before open₁ open₂
      | releasedStage stage =>
          rw [openProgram_releasedStage] at open₁ open₂
          exact ih before open₁ open₂
      | _ =>
          rw [openProgram_cons_of_quiet rfl] at open₁ open₂
          exact ih before open₁ open₂

/-! ## Calls -/

namespace Journaled

variable {δ : Type}

/--
An orderly journal that leaves these stages and programs open, and in which only such
programs were released.
-/
structure Keeps (journaled : Journaled δ) (stages programs : List Nat)
    (released : Nat → Prop) : Prop where
  numbered : ∀ entry ∈ journaled.entries, ∀ number ∈ entry.numbers,
    number < journaled.nextNumber
  stages : ∀ stage, OpenStage journaled.entries stage ↔ stage ∈ stages
  programs : ∀ program, OpenProgram journaled.entries program ↔ program ∈ programs
  released : ∀ program, .releasedProgram program ∈ journaled.entries → released program
  orderly : Orderly journaled.entries

theorem keeps_start (device : δ) : (start device).Keeps [] [] fun _ => False where
  numbered := by simp [start]
  stages := by simp [start, OpenStage]
  programs := by simp [start, OpenProgram]
  released := by simp [start]
  orderly := orderly_nil

variable {journaled : Journaled δ} {stages programs : List Nat} {released : Nat → Prop}

theorem Keeps.mono (keeps : journaled.Keeps stages programs released) {more : Nat → Prop}
    (within : ∀ program, released program → more program) :
    journaled.Keeps stages programs more :=
  { keeps with released := fun program member => within program (keeps.released program member) }

theorem Keeps.unused (keeps : journaled.Keeps stages programs released) :
    Unused journaled.entries journaled.nextNumber := by
  intro entry member number
  exact Nat.lt_irrefl _ (keeps.numbered entry member _ number)

theorem Keeps.stage_lt (keeps : journaled.Keeps stages programs released) {stage : Nat}
    (present : stage ∈ stages) : stage < journaled.nextNumber :=
  keeps.numbered _ ((keeps.stages stage).mpr present).1 stage (by simp [Entry.numbers])

theorem Keeps.program_lt (keeps : journaled.Keeps stages programs released) {program : Nat}
    (present : program ∈ programs) : program < journaled.nextNumber := by
  obtain ⟨⟨_, member, vertex, fragment, rfl⟩, _⟩ := (keeps.programs program).mpr present
  exact keeps.numbered _ member program (by simp [Entry.numbers])

/-- A call that writes one entry keeps the journal orderly if the entry is allowed. -/
theorem Keeps.write (keeps : journaled.Keeps stages programs released) {entry : Entry}
    {later : Journaled δ} {stages' programs' : List Nat}
    (written : later.entries = entry :: journaled.entries)
    (grows : journaled.nextNumber ≤ later.nextNumber)
    (numbered : ∀ number ∈ entry.numbers, number < later.nextNumber)
    (allowed : Allowed journaled.entries entry)
    (known : ∀ program, entry = .releasedProgram program → released program)
    (openStages : ∀ stage, OpenStage (entry :: journaled.entries) stage ↔ stage ∈ stages')
    (openPrograms : ∀ program,
      OpenProgram (entry :: journaled.entries) program ↔ program ∈ programs') :
    later.Keeps stages' programs' released where
  numbered := by
    intro other member number mentioned
    rw [written] at member
    rcases List.mem_cons.mp member with rfl | old
    · exact numbered number mentioned
    · exact Nat.lt_of_lt_of_le (keeps.numbered other old number mentioned) grows
  stages := by
    rw [written]
    exact openStages
  programs := by
    rw [written]
    exact openPrograms
  released := by
    intro program member
    rw [written] at member
    rcases List.mem_cons.mp member with equal | old
    · exact known program equal.symm
    · exact keeps.released program old
  orderly := by
    rw [written]
    exact keeps.orderly.cons allowed

/-- An entry that creates and releases nothing only has to be allowed. -/
theorem Keeps.note (keeps : journaled.Keeps stages programs released) {entry : Entry}
    (quiet : entry.numbers = []) (allowed : Allowed journaled.entries entry) (device : δ) :
    (journaled.note entry device).Keeps stages programs released := by
  refine keeps.write rfl (Nat.le_refl _) ?_ allowed ?_ ?_ ?_
  · simp [quiet]
  · rintro program rfl
    cases quiet
  · intro stage
    exact (openStage_cons_of_quiet quiet).trans (keeps.stages stage)
  · intro program
    exact (openProgram_cons_of_quiet quiet).trans (keeps.programs program)

/-- A new stage is open. -/
theorem Keeps.compiled (keeps : journaled.Keeps stages programs released) {object : Type}
    (stage : object) (device : δ) :
    (journaled.number .compiled stage device).2.Keeps (journaled.nextNumber :: stages)
      programs released := by
  refine keeps.write rfl (Nat.le_succ _) ?_ keeps.unused (by simp) ?_ ?_
  · simp [Entry.numbers, number]
  · intro other
    rw [openStage_compiled keeps.unused, keeps.stages other, List.mem_cons]
  · intro other
    rw [openProgram_compiled, keeps.programs other]

/-- A new program is open; it may be linked if no other one is. -/
theorem Keeps.linked (keeps : journaled.Keeps stages [] released) {vertex fragment : Nat}
    (vertexOpen : vertex ∈ stages) (fragmentOpen : fragment ∈ stages) {object : Type}
    (program : object) (device : δ) :
    (journaled.number (.linked vertex fragment) program device).2.Keeps stages
      [journaled.nextNumber] released := by
  have allowed : Allowed journaled.entries
      (.linked vertex fragment journaled.nextNumber) := by
    refine ⟨(keeps.stages vertex).mpr vertexOpen, (keeps.stages fragment).mpr fragmentOpen,
      keeps.unused, ?_⟩
    intro other present
    exact absurd ((keeps.programs other).mp present) List.not_mem_nil
  refine keeps.write rfl (Nat.le_succ _) ?_ allowed (by simp) ?_ ?_
  · simp [Entry.numbers, number]
  · intro other
    rw [openStage_linked, keeps.stages other]
  · intro other
    rw [openProgram_linked keeps.unused, keeps.programs other, List.mem_cons]

variable [Device δ]

theorem Keeps.releaseStage (keeps : journaled.Keeps stages programs released)
    (stage : StageObject (Journaled δ)) (present : stage.number ∈ stages) :
    (Device.releaseStage journaled stage).Keeps (stages.filter (· ≠ stage.number))
      programs released := by
  have allowed : Allowed journaled.entries (.releasedStage stage.number) :=
    (keeps.stages stage.number).mpr present
  refine keeps.write rfl (Nat.le_refl _) ?_ allowed (by simp) ?_ ?_
  · intro number mentioned
    simp only [Entry.numbers, List.mem_singleton] at mentioned
    exact mentioned ▸ keeps.stage_lt present
  · intro other
    rw [openStage_releasedStage, keeps.stages other, List.mem_filter, decide_eq_true_iff]
  · intro other
    rw [openProgram_releasedStage, keeps.programs other]

/-- A program that is open may be released. -/
theorem Keeps.releaseProgram (keeps : journaled.Keeps stages programs released)
    (program : Device.Program (Journaled δ)) (present : program.number ∈ programs)
    (known : released program.number) :
    (Device.releaseProgram journaled program).Keeps stages
      (programs.filter (· ≠ program.number)) released := by
  have allowed : Allowed journaled.entries (.releasedProgram program.number) :=
    (keeps.programs program.number).mpr present
  refine keeps.write rfl (Nat.le_refl _) ?_ allowed (by rintro _ ⟨⟩; exact known) ?_ ?_
  · intro number mentioned
    simp only [Entry.numbers, List.mem_singleton] at mentioned
    exact mentioned ▸ keeps.program_lt present
  · intro other
    rw [openStage_releasedProgram, keeps.stages other]
  · intro other
    rw [openProgram_releasedProgram, keeps.programs other, List.mem_filter,
      decide_eq_true_iff]

/-! ### Calls of a frame -/

theorem Keeps.beginFrame (keeps : journaled.Keeps stages programs released) :
    (Device.beginFrame journaled).2.Keeps stages programs released := by
  simp only [Device.beginFrame]
  rcases Device.beginFrame journaled.device with ⟨error | _, device⟩
  · have allowed : Allowed journaled.entries .beginFailed := trivial
    exact keeps.note rfl allowed device
  · have allowed : Allowed journaled.entries .began := trivial
    exact keeps.note rfl allowed device

/-- Only an open program may be bound. -/
theorem Keeps.bindProgram (keeps : journaled.Keeps stages programs released)
    (program : Device.Program (Journaled δ)) (present : program.number ∈ programs) :
    (Device.bindProgram journaled program).Keeps stages programs released := by
  have allowed : Allowed journaled.entries (.bound program.number) :=
    (keeps.programs program.number).mpr present
  exact keeps.note rfl allowed _

theorem Keeps.setUniform (keeps : journaled.Keeps stages programs released)
    (slot : Slot (Journaled δ)) (value : Uniform.Value) :
    (Device.setUniform journaled slot value).Keeps stages programs released := by
  have allowed : Allowed journaled.entries (.set slot.program slot.name value) := trivial
  exact keeps.note rfl allowed _

theorem Keeps.draw (keeps : journaled.Keeps stages programs released) :
    (Device.draw journaled).Keeps stages programs released := by
  have allowed : Allowed journaled.entries .drew := trivial
  exact keeps.note rfl allowed _

theorem Keeps.capture (keeps : journaled.Keeps stages programs released) :
    (Device.capture journaled).2.Keeps stages programs released := by
  have allowed : Allowed journaled.entries .captured := trivial
  exact keeps.note rfl allowed _

theorem Keeps.endFrame (keeps : journaled.Keeps stages programs released) :
    (Device.endFrame journaled).Keeps stages programs released := by
  have allowed : Allowed journaled.entries .ended := trivial
  exact keeps.note rfl allowed _

/-! ## Builds -/

theorem Keeps.compile (keeps : journaled.Keeps stages programs released) (kind : Stage)
    (source : String) :
    (∃ error later, Program.compileStage journaled kind source = (.error error, later) ∧
      later.Keeps stages programs released) ∨
    ∃ stage later, Program.compileStage journaled kind source = (.ok stage, later) ∧
      stage.number ∉ stages ∧ later.Keeps (stage.number :: stages) programs released := by
  simp only [Program.compileStage, Device.compile]
  rcases Device.compile journaled.device kind source with ⟨log | stage, device⟩
  · have allowed : Allowed journaled.entries .compileFailed := trivial
    exact Or.inl ⟨_, _, rfl, keeps.note rfl allowed device⟩
  · refine Or.inr ⟨_, _, rfl, ?_, keeps.compiled stage device⟩
    intro present
    exact Nat.lt_irrefl _ (keeps.stage_lt present)

theorem Keeps.link (keeps : journaled.Keeps stages [] released)
    {vertex fragment : StageObject (Journaled δ)} (vertexOpen : vertex.number ∈ stages)
    (fragmentOpen : fragment.number ∈ stages) :
    (∃ log later, Device.link journaled vertex fragment = (.error log, later) ∧
      later.Keeps stages [] released) ∨
    ∃ program later, Device.link journaled vertex fragment = (.ok program, later) ∧
      later.Keeps stages [program.number] released := by
  simp only [Device.link]
  rcases Device.link journaled.device vertex.object fragment.object with ⟨log | program, device⟩
  · have allowed : Allowed journaled.entries (.linkFailed vertex.number fragment.number) :=
      ⟨(keeps.stages _).mpr vertexOpen, (keeps.stages _).mpr fragmentOpen⟩
    exact Or.inl ⟨_, _, rfl, keeps.note rfl allowed device⟩
  · exact Or.inr ⟨_, _, rfl, keeps.linked vertexOpen fragmentOpen program device⟩

/-- Both stages of a build are given back. -/
theorem Keeps.releaseStages {vertex fragment : StageObject (Journaled δ)}
    (differ : fragment.number ≠ vertex.number)
    (keeps : journaled.Keeps [fragment.number, vertex.number] programs released) :
    (Device.releaseStage (Device.releaseStage journaled vertex) fragment).Keeps []
      programs released := by
  have first := keeps.releaseStage vertex (by simp)
  have rest : [fragment.number, vertex.number].filter (· ≠ vertex.number) =
      [fragment.number] := by
    simp [differ]
  rw [rest] at first
  have second := first.releaseStage fragment (by simp)
  simpa using second

/-- A build leaves no stage open, and a program only if it succeeds. -/
theorem Keeps.build (keeps : journaled.Keeps [] [] released) (source : String) :
    (∃ error later, Program.build journaled source = (.error error, later) ∧
      later.Keeps [] [] released) ∨
    ∃ program later, Program.build journaled source = (.ok program, later) ∧
      later.Keeps [] [program.number] released := by
  rw [Program.build]
  rcases keeps.compile .vertex Program.vertexSource with
    ⟨error, later, equal, kept⟩ | ⟨vertex, later, equal, _, kept⟩
  · rw [equal]
    exact Or.inl ⟨error, later, rfl, kept⟩
  rw [equal]
  dsimp only
  rcases kept.compile .fragment source with
    ⟨error, later, equal, kept⟩ | ⟨fragment, later, equal, fresh, kept⟩
  · rw [equal]
    have released := kept.releaseStage vertex (by simp)
    exact Or.inl ⟨error, _, rfl, by simpa using released⟩
  rw [equal]
  dsimp only
  have differ : fragment.number ≠ vertex.number := by simpa using fresh
  have vertexOpen : vertex.number ∈ [fragment.number, vertex.number] := by simp
  have fragmentOpen : fragment.number ∈ [fragment.number, vertex.number] := by simp
  rcases kept.link vertexOpen fragmentOpen with
    ⟨log, later, equal, kept⟩ | ⟨program, later, equal, kept⟩
  · rw [equal]
    exact Or.inl ⟨_, _, rfl, kept.releaseStages differ⟩
  · rw [equal]
    exact Or.inr ⟨_, _, rfl, kept.releaseStages differ⟩

end Journaled

end LiveShader.Device
