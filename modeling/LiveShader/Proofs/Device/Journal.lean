import LiveShader.Proofs.Device.Matching

/-!
# Devices that keep a journal

Any device can be wrapped so that it writes down the calls it gets.  The wrapper
numbers the stages and programs that the device hands out, so that two of them are
told apart even where the device itself would not tell them apart.  It answers like
the device inside, and what a session does is the same with and without it.
-/

namespace LiveShader.Device

/-- A call of a device and what came of it; objects go by their numbers. -/
inductive Entry where
  | compiled (stage : Nat)
  | compileFailed
  | releasedStage (stage : Nat)
  | linked (vertex fragment program : Nat)
  | linkFailed (vertex fragment : Nat)
  | releasedProgram (program : Nat)
  | began
  | beginFailed
  | bound (program : Nat)
  | set (program : Nat) (name : String) (value : Uniform.Value)
  | drew
  | captured
  | ended

/-- An object of a device under its number. -/
structure Numbered (object : Type) where
  number : Nat
  object : object

/-- A uniform of a numbered program and its place there. -/
structure NamedSlot (slot : Type) where
  program : Nat
  name : String
  slot : slot

/-- A device with the journal of its calls. -/
structure Journaled (δ : Type) where
  device : δ
  nextNumber : Nat
  /-- The journal, the newest entry first. -/
  entries : List Entry

namespace Journaled

variable {δ : Type} [Device δ]

/-- A device with an empty journal. -/
def start (device : δ) : Journaled δ := ⟨device, 0, []⟩

/-- Writes an entry after a call that left the device in a new state. -/
def note (journaled : Journaled δ) (entry : Entry) (device : δ) : Journaled δ :=
  { journaled with device := device, entries := entry :: journaled.entries }

/-- Writes an entry for an object that the device handed out. -/
def number {object : Type} (journaled : Journaled δ) (entry : Nat → Entry) (result : object)
    (device : δ) : Numbered object × Journaled δ :=
  (⟨journaled.nextNumber, result⟩,
    ⟨device, journaled.nextNumber + 1, entry journaled.nextNumber :: journaled.entries⟩)

instance : Device (Journaled δ) where
  StageObject := Numbered (StageObject δ)
  Program := Numbered (Device.Program δ)
  Slot := NamedSlot (Slot δ)
  compile journaled kind source :=
    match Device.compile journaled.device kind source with
    | (.ok stage, device) =>
        let (stage, journaled) := journaled.number .compiled stage device
        (.ok stage, journaled)
    | (.error log, device) => (.error log, journaled.note .compileFailed device)
  releaseStage journaled stage :=
    journaled.note (.releasedStage stage.number)
      (Device.releaseStage journaled.device stage.object)
  link journaled vertex fragment :=
    match Device.link journaled.device vertex.object fragment.object with
    | (.ok program, device) =>
        let (program, journaled) :=
          journaled.number (.linked vertex.number fragment.number) program device
        (.ok program, journaled)
    | (.error log, device) =>
        (.error log, journaled.note (.linkFailed vertex.number fragment.number) device)
  releaseProgram journaled program :=
    journaled.note (.releasedProgram program.number)
      (Device.releaseProgram journaled.device program.object)
  slot? journaled program name :=
    (Device.slot? journaled.device program.object name).map (⟨program.number, name, ·⟩)
  viewport journaled := Device.viewport journaled.device
  beginFrame journaled :=
    match Device.beginFrame journaled.device with
    | (.ok _, device) => (.ok (), journaled.note .began device)
    | (.error error, device) => (.error error, journaled.note .beginFailed device)
  bindProgram journaled program :=
    journaled.note (.bound program.number) (Device.bindProgram journaled.device program.object)
  setUniform journaled slot value :=
    journaled.note (.set slot.program slot.name value)
      (Device.setUniform journaled.device slot.slot value)
  draw journaled := journaled.note .drew (Device.draw journaled.device)
  capture journaled :=
    let (image, device) := Device.capture journaled.device
    (image, journaled.note .captured device)
  endFrame journaled := journaled.note .ended (Device.endFrame journaled.device)

/-- A frame that begins leaves one entry. -/
theorem entries_of_begun {journaled begun : Journaled δ}
    (began : Device.beginFrame journaled = (.ok (), begun)) :
    begun.entries = .began :: journaled.entries := by
  simp only [Device.beginFrame] at began
  rcases answer : Device.beginFrame journaled.device with ⟨error | _, device⟩
  · rw [answer] at began
    cases began
  · rw [answer] at began
    cases began
    rfl

/-! ## The device inside -/

/-- A journaled device answers like the device inside it. -/
def inside (δ : Type) [Device δ] : Matching (Journaled δ) δ where
  device journaled device := journaled.device = device
  stage numbered stage := numbered.object = stage
  program numbered program := numbered.object = program
  slot named slot := named.slot = slot
  compile := by
    rintro journaled _ rfl kind source
    simp only [Device.compile]
    rcases Device.compile journaled.device kind source with ⟨_ | _, device⟩
    · exact .error rfl
    · exact .ok rfl rfl
  releaseStage := by
    rintro journaled _ stage _ rfl rfl
    rfl
  link := by
    rintro journaled _ vertex _ fragment _ rfl rfl rfl
    simp only [Device.link]
    rcases Device.link journaled.device vertex.object fragment.object with ⟨_ | _, device⟩
    · exact .error rfl
    · exact .ok rfl rfl
  releaseProgram := by
    rintro journaled _ program _ rfl rfl
    rfl
  lookup := by
    rintro journaled _ program _ rfl rfl name
    simp only [Device.slot?]
    cases Device.slot? journaled.device program.object name with
    | none => exact .none
    | some slot => exact .some rfl
  viewport := by
    rintro journaled _ rfl
    rfl
  beginFrame := by
    rintro journaled _ rfl
    simp only [Device.beginFrame]
    rcases Device.beginFrame journaled.device with ⟨_ | _, device⟩
    · exact .error rfl
    · exact .ok rfl rfl
  bindProgram := by
    rintro journaled _ program _ rfl rfl
    rfl
  setUniform := by
    rintro journaled _ slot _ rfl rfl value
    rfl
  draw := by
    rintro journaled _ rfl
    rfl
  capture := by
    rintro journaled _ rfl
    simp only [Device.capture]
    rcases Device.capture journaled.device with ⟨_ | _, device⟩
    · exact .error rfl
    · exact .ok rfl rfl
  endFrame := by
    rintro journaled _ rfl
    rfl

end Journaled

end LiveShader.Device
