import LiveShader.Device.Scripted
import LiveShader.Proofs.Device.Journal

/-!
# Journals up to their numbers

Two devices that answer alike from some moment on have different pasts: other calls stand
in their journals, and the next object gets another number.  What is written from then on
is the same up to these numbers.  Scripted devices number their objects themselves, and
they answer alike as soon as their scripts agree.
-/

namespace LiveShader.Device

/-! ## Counting from two bases -/

/-- Two numbers that are equally far from two bases. -/
def Abreast (first second left right : Nat) : Prop :=
  ∃ count, left = first + count ∧ right = second + count

section Counting

variable {first second left right : Nat}

theorem abreast_self (first second : Nat) : Abreast first second first second :=
  ⟨0, rfl, rfl⟩

theorem Abreast.succ (abreast : Abreast first second left right) :
    Abreast first second (left + 1) (right + 1) := by
  obtain ⟨count, rfl, rfl⟩ := abreast
  exact ⟨count + 1, rfl, rfl⟩

theorem Abreast.eq_iff (abreast : Abreast first second left right) {other another : Nat}
    (others : Abreast first second other another) : left = other ↔ right = another := by
  obtain ⟨count, rfl, rfl⟩ := abreast
  obtain ⟨further, rfl, rfl⟩ := others
  rw [Nat.add_left_cancel_iff, Nat.add_left_cancel_iff]

theorem Abreast.le (abreast : Abreast first second left right) :
    first ≤ left ∧ second ≤ right := by
  obtain ⟨count, rfl, rfl⟩ := abreast
  exact ⟨Nat.le_add_right _ _, Nat.le_add_right _ _⟩

end Counting

/-- An entry whose objects are counted from a base. -/
def Entry.shift (base : Nat) : Entry → Entry
  | .compiled stage => .compiled (base + stage)
  | .releasedStage stage => .releasedStage (base + stage)
  | .linked vertex fragment program =>
      .linked (base + vertex) (base + fragment) (base + program)
  | .linkFailed vertex fragment => .linkFailed (base + vertex) (base + fragment)
  | .releasedProgram program => .releasedProgram (base + program)
  | .bound program => .bound (base + program)
  | .set program name value => .set (base + program) name value
  | .compileFailed => .compileFailed
  | .began => .began
  | .beginFailed => .beginFailed
  | .drew => .drew
  | .captured => .captured
  | .ended => .ended

/-! ## Journals that go on alike -/

section Since

variable {δ ε : Type}

/-- Journals that went on alike since two moments, up to the numbers of later objects. -/
def GrewAlike (before : Journaled δ) (other : Journaled ε) (left : Journaled δ)
    (right : Journaled ε) : Prop :=
  ∃ calls : List Entry,
    left.entries = calls.map (Entry.shift before.nextNumber) ++ before.entries ∧
      right.entries = calls.map (Entry.shift other.nextNumber) ++ other.entries

variable [Device δ] [Device ε]

/-- Devices that answer alike and have gone on alike since two moments. -/
structure Matching.Since (pairing : Matching δ ε) (before : Journaled δ) (other : Journaled ε)
    (left : Journaled δ) (right : Journaled ε) : Prop where
  device : pairing.device left.device right.device
  nextNumber : Abreast before.nextNumber other.nextNumber left.nextNumber right.nextNumber
  entries : GrewAlike before other left right

namespace Matching.Since

variable {pairing : Matching δ ε} {before left : Journaled δ} {other right : Journaled ε}

theorem refl (paired : pairing.device before.device other.device) :
    pairing.Since before other before other :=
  ⟨paired, abreast_self _ _, [], rfl, rfl⟩

/-- A call on paired objects is written down alike. -/
theorem note (since : pairing.Since before other left right) (entry : Entry) {d : δ} {e : ε}
    (paired : pairing.device d e) :
    pairing.Since before other (left.note (entry.shift before.nextNumber) d)
      (right.note (entry.shift other.nextNumber) e) := by
  obtain ⟨calls, leftEntries, rightEntries⟩ := since.entries
  refine ⟨paired, since.nextNumber, entry :: calls, ?_, ?_⟩
  · exact congrArg (entry.shift before.nextNumber :: ·) leftEntries
  · exact congrArg (entry.shift other.nextNumber :: ·) rightEntries

theorem number (since : pairing.Since before other left right) {entry counterpart : Nat → Entry}
    (entries : ∀ count, ∃ common : Entry,
      entry (before.nextNumber + count) = common.shift before.nextNumber ∧
        counterpart (other.nextNumber + count) = common.shift other.nextNumber)
    {object object' : Type} (result : object) (result' : object') {d : δ} {e : ε}
    (paired : pairing.device d e) :
    pairing.Since before other (left.number entry result d).2
      (right.number counterpart result' e).2 := by
  obtain ⟨count, leftNumber, rightNumber⟩ := since.nextNumber
  obtain ⟨common, own, theirs⟩ := entries count
  rw [← leftNumber] at own
  rw [← rightNumber] at theirs
  have noted := since.note common paired
  rw [← own, ← theirs] at noted
  exact ⟨paired, since.nextNumber.succ, noted.entries⟩

end Matching.Since

/-- Devices that answer alike also do so with their journals, since any two moments. -/
def Matching.since (pairing : Matching δ ε) (before : Journaled δ) (other : Journaled ε) :
    Matching (Journaled δ) (Journaled ε) where
  device := pairing.Since before other
  stage left right := pairing.stage left.object right.object ∧
    Abreast before.nextNumber other.nextNumber left.number right.number
  program left right := pairing.program left.object right.object ∧
    Abreast before.nextNumber other.nextNumber left.number right.number
  slot left right := pairing.slot left.slot right.slot ∧ left.name = right.name ∧
    Abreast before.nextNumber other.nextNumber left.program right.program
  compile := by
    intro left right since kind source
    have answers := pairing.compile since.device kind source
    simp only [Device.compile]
    generalize Device.compile left.device kind source = first at answers ⊢
    generalize Device.compile right.device kind source = second at answers ⊢
    cases answers with
    | error devices => exact .error (since.note .compileFailed devices)
    | ok stages devices =>
        refine .ok ⟨stages, since.nextNumber⟩ (since.number ?_ _ _ devices)
        exact fun count => ⟨.compiled count, rfl, rfl⟩
  releaseStage := by
    rintro left right ⟨number, stage⟩ ⟨number', stage'⟩ since ⟨stages, count, rfl, rfl⟩
    exact since.note (.releasedStage count) (pairing.releaseStage since.device stages)
  link := by
    rintro left right ⟨_, vertex⟩ ⟨_, vertex'⟩ ⟨_, fragment⟩ ⟨_, fragment'⟩ since
      ⟨vertices, own, rfl, rfl⟩ ⟨fragments, further, rfl, rfl⟩
    have answers := pairing.link since.device vertices fragments
    simp only [Device.link]
    generalize Device.link left.device vertex fragment = first at answers ⊢
    generalize Device.link right.device vertex' fragment' = second at answers ⊢
    cases answers with
    | error devices => exact .error (since.note (.linkFailed own further) devices)
    | ok programs devices =>
        refine .ok ⟨programs, since.nextNumber⟩ (since.number ?_ _ _ devices)
        exact fun count => ⟨.linked own further count, rfl, rfl⟩
  releaseProgram := by
    rintro left right ⟨_, program⟩ ⟨_, program'⟩ since ⟨programs, count, rfl, rfl⟩
    exact since.note (.releasedProgram count) (pairing.releaseProgram since.device programs)
  lookup := by
    rintro left right ⟨number, program⟩ ⟨number', program'⟩ since ⟨programs, abreast⟩ name
    have places := pairing.lookup since.device programs name
    simp only [Device.slot?]
    generalize Device.slot? left.device program name = place at places ⊢
    generalize Device.slot? right.device program' name = place' at places ⊢
    cases places with
    | none => exact .none
    | some slots => exact .some ⟨slots, rfl, abreast⟩
  viewport := fun since => pairing.viewport since.device
  beginFrame := by
    intro left right since
    have answers := pairing.beginFrame since.device
    simp only [Device.beginFrame]
    generalize Device.beginFrame left.device = first at answers ⊢
    generalize Device.beginFrame right.device = second at answers ⊢
    cases answers with
    | error devices => exact .error (since.note .beginFailed devices)
    | ok _ devices => exact .ok rfl (since.note .began devices)
  bindProgram := by
    rintro left right ⟨_, program⟩ ⟨_, program'⟩ since ⟨programs, count, rfl, rfl⟩
    exact since.note (.bound count) (pairing.bindProgram since.device programs)
  setUniform := by
    rintro left right ⟨_, name, slot⟩ ⟨_, _, slot'⟩ since ⟨slots, rfl, count, rfl, rfl⟩ value
    exact since.note (.set count name value) (pairing.setUniform since.device slots value)
  draw := fun since => since.note .drew (pairing.draw since.device)
  capture := by
    intro left right since
    have answers := pairing.capture since.device
    simp only [Device.capture]
    generalize Device.capture left.device = first at answers ⊢
    generalize Device.capture right.device = second at answers ⊢
    cases answers with
    | error devices => exact .error (since.note .captured devices)
    | ok images devices => exact .ok images (since.note .captured devices)
  endFrame := fun since => since.note .ended (pairing.endFrame since.device)

end Since

/-! ## Scripted devices -/

namespace Scripted

/-- Whether the same script is left to devices, whatever they did so far. -/
def SameScript (left right : Scripted) : Prop :=
  ∃ nextId calls, left = { right with nextId := nextId, calls := calls }

theorem SameScript.note {left right : Scripted} (same : SameScript left right)
    (call other : Call) : SameScript (left.note call) (right.note other) := by
  obtain ⟨nextId, calls, rfl⟩ := same
  exact ⟨nextId, call :: calls, rfl⟩

/-- Scripted devices with the same script answer alike. -/
def sameScript : Matching Scripted Scripted where
  device := SameScript
  stage _ _ := True
  program left right := left.uniforms = right.uniforms
  slot left right := left.index = right.index
  compile := by
    rintro _ right ⟨nextId, calls, rfl⟩ kind source
    cases kind <;> simp only [Device.compile, compile, failure] <;> split
    all_goals first
      | exact .error ⟨nextId, _, rfl⟩
      | exact .ok trivial ⟨nextId + 1, _, rfl⟩
  releaseStage same _ := same.note _ _
  link := by
    rintro _ right _ _ _ _ ⟨nextId, calls, rfl⟩ _ _
    simp only [Device.link, link]
    split
    · exact .error ⟨nextId, _, rfl⟩
    · exact .ok rfl ⟨nextId + 1, _, rfl⟩
  releaseProgram same _ := same.note _ _
  lookup := by
    intro left right program counterpart _ uniforms name
    simp only [Device.slot?]
    rw [uniforms]
    cases counterpart.uniforms.findIdx? (· == name) with
    | none => exact .none
    | some index => exact .some rfl
  viewport := by
    rintro _ right ⟨nextId, calls, rfl⟩
    rfl
  beginFrame := by
    rintro _ right ⟨nextId, calls, rfl⟩
    simp only [Device.beginFrame, beginFrame]
    split
    · exact .error ⟨nextId, _, rfl⟩
    · exact .ok rfl ⟨nextId, _, rfl⟩
  bindProgram same _ := same.note _ _
  setUniform same _ _ := same.note _ _
  draw same := same.note _ _
  capture := by
    rintro _ right ⟨nextId, calls, rfl⟩
    simp only [Device.capture, capture]
    split
    · exact .error ⟨nextId, _, rfl⟩
    · exact .ok rfl ⟨nextId, _, rfl⟩
  endFrame same := same.note _ _

end Scripted

end LiveShader.Device
