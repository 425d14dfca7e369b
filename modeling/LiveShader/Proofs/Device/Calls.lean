import LiveShader.Proofs.Device.Journal
import LiveShader.Proofs.Program.Binding

/-!
# The order of the calls

The calls of a device come in blocks: an attempt to build a program, the release of one,
an attempt to begin a frame that fails, a blank frame, and a rendered frame.  A rendered
frame binds one program, writes uniforms of that program, draws, is captured at most once,
and ends.  The places it writes to were looked up in that program when it was built.

Such a journal is also read by an automaton of five phases.  It is idle after every block,
and no entry is ever out of order.
-/

namespace LiveShader.Device

/-! ## Blocks of calls -/

section Blocks

variable {δ : Type} [Device δ]

/--
A place that a lookup returned for a program: the program came out of a build that the
journal holds, and the place was looked up right after it.
-/
def Resolved (entries : List Entry) (program : Device.Program (Journaled δ))
    (slot : Slot (Journaled δ)) : Prop :=
  ∃ before built source, Program.build before source = (.ok program, built) ∧
    built.entries <:+ entries ∧ Device.slot? built program slot.name = some slot

theorem program_of_slot? {journaled : Journaled δ} {program : Device.Program (Journaled δ)}
    {name : String} {slot : Slot (Journaled δ)}
    (found : Device.slot? journaled program name = some slot) :
    slot.program = program.number ∧ slot.name = name := by
  obtain ⟨place, _, rfl⟩ := Option.map_eq_some_iff.mp found
  exact ⟨rfl, rfl⟩

theorem Resolved.program_eq {entries : List Entry} {program : Device.Program (Journaled δ)}
    {slot : Slot (Journaled δ)} (resolved : Resolved entries program slot) :
    slot.program = program.number := by
  obtain ⟨_, _, _, _, _, found⟩ := resolved
  exact (program_of_slot? found).1

variable (δ) in
/-- A write of a uniform: its place and its value. -/
abbrev Write : Type := Slot (Journaled δ) × Uniform.Value

def setEntry (write : Write δ) : Entry :=
  .set write.1.program write.1.name write.2

/-- The calls of a rendered frame, the oldest first. -/
def frameCalls (program : Nat) (writes : List (Write δ)) (captures : Bool) : List Entry :=
  .began :: .bound program :: (writes.map setEntry ++
    .drew :: ((if captures then [.captured] else []) ++ [.ended]))

variable (δ) in
/-- The calls of one block, the oldest first, that follow a journal. -/
inductive Block (past : List Entry) : List Entry → Prop where
  | vertexFailed : Block past [.compileFailed]
  | fragmentFailed (vertex : Nat) :
      Block past [.compiled vertex, .compileFailed, .releasedStage vertex]
  | linkFailed (vertex fragment : Nat) :
      Block past [.compiled vertex, .compiled fragment, .linkFailed vertex fragment,
        .releasedStage vertex, .releasedStage fragment]
  | built (vertex fragment program : Nat) :
      Block past [.compiled vertex, .compiled fragment, .linked vertex fragment program,
        .releasedStage vertex, .releasedStage fragment]
  | released (program : Nat) : Block past [.releasedProgram program]
  | beginFailed : Block past [.beginFailed]
  | blank : Block past [.began, .ended]
  | rendered (program : Device.Program (Journaled δ))
      (writes : List (Write δ)) (captures : Bool)
      (resolved : ∀ write ∈ writes, Resolved past program write.1) :
      Block past (frameCalls program.number writes captures)

variable (δ) in
/-- A journal that is a sequence of blocks; the newest entry comes first. -/
inductive Blocks : List Entry → Prop where
  | nil : Blocks []
  | append {past calls : List Entry} (before : Blocks past) (block : Block δ past calls) :
      Blocks (calls.reverse ++ past)

end Blocks

/-! ## Phases -/

/-- Where a device stands between two calls. -/
inductive Phase where
  | idle
  /-- A frame was begun and nothing is bound yet. -/
  | begun
  /-- A program is bound and its uniforms may be written. -/
  | bound (program : Nat)
  | drawn
  | captured
  deriving DecidableEq

/-- The phase after a call, unless the call is out of order. -/
def Phase.next? : Phase → Entry → Option Phase
  | .idle, .began => some .begun
  | .idle, .compiled _ | .idle, .compileFailed | .idle, .releasedStage _
  | .idle, .linked .. | .idle, .linkFailed .. | .idle, .releasedProgram _
  | .idle, .beginFailed => some .idle
  | .begun, .bound program => some (.bound program)
  | .begun, .ended => some .idle
  | .bound program, .set other _ _ => if other = program then some (.bound program) else none
  | .bound _, .drew => some .drawn
  | .drawn, .captured => some .captured
  | .drawn, .ended | .captured, .ended => some .idle
  | _, _ => none

/-- The phase after some calls, the oldest first. -/
def Phase.after? (phase : Phase) : List Entry → Option Phase
  | [] => some phase
  | entry :: rest => (phase.next? entry).bind fun next => next.after? rest

/-- The phase at the end of a journal, unless a call was out of order. -/
def phase? : List Entry → Option Phase
  | [] => some .idle
  | entry :: past => (phase? past).bind fun phase => phase.next? entry

theorem phase?_reverse_append (calls past : List Entry) :
    phase? (calls.reverse ++ past) = (phase? past).bind fun phase => phase.after? calls := by
  induction calls generalizing past with
  | nil =>
      cases equal : phase? past <;> simp [equal, Phase.after?]
  | cons entry rest ih =>
      rw [List.reverse_cons, List.append_assoc, List.singleton_append, ih, phase?,
        Option.bind_assoc]
      rfl

section Reading

variable {δ : Type} [Device δ]

theorem Phase.after?_writes (program : Nat) (writes : List (Write δ))
    (own : ∀ write ∈ writes, write.1.program = program) (rest : List Entry) :
    (Phase.bound program).after? (writes.map setEntry ++ rest) =
      (Phase.bound program).after? rest := by
  induction writes with
  | nil => rfl
  | cons write writes ih =>
      have first : write.1.program = program := own write List.mem_cons_self
      rw [List.map_cons, List.cons_append, Phase.after?, setEntry, Phase.next?, if_pos first,
        Option.bind_some]
      exact ih fun other member => own other (List.mem_cons_of_mem _ member)

/-- Every block leads from the idle phase back to it. -/
theorem Block.after? {past calls : List Entry} (block : Block δ past calls) :
    Phase.idle.after? calls = some .idle := by
  cases block with
  | rendered program writes captures resolved =>
      have own : ∀ write ∈ writes, write.1.program = program.number := by
        intro write member
        exact (resolved write member).program_eq
      have drawn : (Phase.bound program.number).after?
          (.drew :: ((if captures then [Entry.captured] else []) ++ [.ended])) = some .idle := by
        cases captures <;> rfl
      rw [← Phase.after?_writes program.number writes own] at drawn
      exact drawn
  | _ => rfl

theorem Blocks.phase_idle {entries : List Entry} (blocks : Blocks δ entries) :
    phase? entries = some .idle := by
  induction blocks with
  | nil => rfl
  | append before block ih =>
      rw [phase?_reverse_append, ih, Option.bind_some]
      exact block.after?

end Reading

/-! ## Attempts to begin a frame -/

/-- Whether a call was an attempt to begin a frame. -/
def Entry.isAttempt : Entry → Bool
  | .began | .beginFailed => true
  | _ => false

def Entry.isDraw : Entry → Bool
  | .drew => true
  | _ => false

/-- What frames add to a journal: attempts to begin one, and at most as many draws. -/
structure Attempted (count : Nat) (before after : List Entry) : Prop where
  attempts : after.countP Entry.isAttempt = before.countP Entry.isAttempt + count
  draws : after.countP Entry.isDraw ≤ before.countP Entry.isDraw + count

theorem Attempted.refl (entries : List Entry) : Attempted 0 entries entries :=
  ⟨rfl, Nat.le_refl _⟩

theorem Attempted.trans {first second : Nat} {before between after : List Entry}
    (left : Attempted first before between) (right : Attempted second between after) :
    Attempted (first + second) before after := by
  constructor
  · rw [right.attempts, left.attempts, Nat.add_assoc]
  · rw [← Nat.add_assoc]
    exact Nat.le_trans right.draws (Nat.add_le_add_right left.draws second)

theorem attempted_beginFailed (past : List Entry) : Attempted 1 past (.beginFailed :: past) := by
  constructor
  · exact List.countP_cons_of_pos rfl
  · rw [List.countP_cons_of_neg Bool.false_ne_true]
    exact Nat.le_succ _

section Counting

variable {δ : Type} [Device δ]

/-- A rendered frame is begun once and drawn once. -/
theorem attempted_frameCalls (program : Nat) (writes : List (Write δ)) (captures : Bool)
    (past : List Entry) :
    Attempted 1 past ((frameCalls program writes captures).reverse ++ past) := by
  have silent : ∀ counted : Entry → Bool,
      (∀ program name value, counted (.set program name value) = false) →
      (writes.map setEntry).countP counted = 0 := by
    intro counted uncounted
    rw [List.countP_map, List.countP_eq_zero]
    intro write _
    simp [setEntry, uncounted]
  have attempts : (frameCalls program writes captures).countP Entry.isAttempt = 1 := by
    rw [frameCalls, List.countP_cons_of_pos rfl, List.countP_cons_of_neg Bool.false_ne_true,
      List.countP_append, silent _ fun _ _ _ => rfl]
    cases captures <;> rfl
  have draws : (frameCalls program writes captures).countP Entry.isDraw = 1 := by
    rw [frameCalls, List.countP_cons_of_neg Bool.false_ne_true,
      List.countP_cons_of_neg Bool.false_ne_true, List.countP_append, silent _ fun _ _ _ => rfl]
    cases captures <;> rfl
  constructor
  · rw [List.countP_append, List.countP_reverse, attempts, Nat.add_comm]
  · apply Nat.le_of_eq
    rw [List.countP_append, List.countP_reverse, draws, Nat.add_comm]

end Counting

/-! ## Builds and releases -/

namespace Journaled

variable {δ : Type} [Device δ]

theorem compileStage_cases (journaled : Journaled δ) (kind : Stage) (source : String) :
    (∃ error later, Program.compileStage journaled kind source = (.error error, later) ∧
      later.entries = .compileFailed :: journaled.entries) ∨
    ∃ stage later, Program.compileStage journaled kind source = (.ok stage, later) ∧
      later.entries = .compiled stage.number :: journaled.entries := by
  simp only [Program.compileStage, Device.compile]
  rcases Device.compile journaled.device kind source with ⟨log | stage, device⟩
  · exact Or.inl ⟨_, _, rfl, rfl⟩
  · exact Or.inr ⟨_, _, rfl, rfl⟩

theorem link_cases (journaled : Journaled δ) (vertex fragment : StageObject (Journaled δ)) :
    (∃ log later, Device.link journaled vertex fragment = (.error log, later) ∧
      later.entries = .linkFailed vertex.number fragment.number :: journaled.entries) ∨
    ∃ program later, Device.link journaled vertex fragment = (.ok program, later) ∧
      later.entries =
        .linked vertex.number fragment.number program.number :: journaled.entries := by
  simp only [Device.link]
  rcases Device.link journaled.device vertex.object fragment.object with ⟨log | program, device⟩
  · exact Or.inl ⟨_, _, rfl, rfl⟩
  · exact Or.inr ⟨_, _, rfl, rfl⟩

/-- The calls of a build on each of its ways out, the oldest first. -/
inductive BuildCalls : List Entry → Prop where
  | vertexFailed : BuildCalls [.compileFailed]
  | fragmentFailed (vertex : Nat) :
      BuildCalls [.compiled vertex, .compileFailed, .releasedStage vertex]
  | linkFailed (vertex fragment : Nat) :
      BuildCalls [.compiled vertex, .compiled fragment, .linkFailed vertex fragment,
        .releasedStage vertex, .releasedStage fragment]
  | built (vertex fragment program : Nat) :
      BuildCalls [.compiled vertex, .compiled fragment, .linked vertex fragment program,
        .releasedStage vertex, .releasedStage fragment]

theorem build_calls (journaled : Journaled δ) (source : String) :
    ∃ calls, BuildCalls calls ∧
      (Program.build journaled source).2.entries = calls.reverse ++ journaled.entries := by
  rw [Program.build]
  rcases journaled.compileStage_cases .vertex Program.vertexSource with
    ⟨error, later, equal, entries⟩ | ⟨vertex, afterVertex, equal, vertexEntries⟩
  · rw [equal]
    exact ⟨_, .vertexFailed, entries⟩
  rw [equal]
  dsimp only
  rcases afterVertex.compileStage_cases .fragment source with
    ⟨error, later, equal, entries⟩ | ⟨fragment, afterFragment, equal, fragmentEntries⟩
  · rw [equal]
    refine ⟨_, .fragmentFailed vertex.number, ?_⟩
    simp [Device.releaseStage, note, entries, vertexEntries]
  rw [equal]
  dsimp only
  rcases afterFragment.link_cases vertex fragment with
    ⟨log, later, equal, entries⟩ | ⟨program, later, equal, entries⟩
  · rw [equal]
    refine ⟨_, .linkFailed vertex.number fragment.number, ?_⟩
    simp [Device.releaseStage, note, entries, fragmentEntries, vertexEntries]
  · rw [equal]
    refine ⟨_, .built vertex.number fragment.number program.number, ?_⟩
    simp [Device.releaseStage, note, entries, fragmentEntries, vertexEntries]

/-- On each of its ways out a build is one block. -/
theorem build_block (journaled : Journaled δ) (source : String) :
    ∃ calls, Block δ journaled.entries calls ∧
      (Program.build journaled source).2.entries = calls.reverse ++ journaled.entries := by
  obtain ⟨calls, made, entries⟩ := journaled.build_calls source
  refine ⟨calls, ?_, entries⟩
  cases made with
  | vertexFailed => exact .vertexFailed
  | fragmentFailed vertex => exact .fragmentFailed vertex
  | linkFailed vertex fragment => exact .linkFailed vertex fragment
  | built vertex fragment program => exact .built vertex fragment program

/-! ## Writes -/

/-- Writes are entered in their order. -/
theorem entries_setAll (journaled : Journaled δ) (writes : List (Write δ)) :
    (Program.Bindings.setAll journaled writes).entries =
      (writes.map setEntry).reverse ++ journaled.entries := by
  induction writes generalizing journaled with
  | nil => rfl
  | cons write rest ih =>
      rw [Program.Bindings.setAll, List.foldl_cons]
      refine (ih _).trans ?_
      rw [List.map_cons, List.reverse_cons, List.append_assoc]
      rfl

end Journaled

end LiveShader.Device
