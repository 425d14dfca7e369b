import LiveShader.Proofs.Manifest.Declaration
import LiveShader.Proofs.Session.Uploads

/-!
# What the built-in uniforms carry

Controls are uploaded behind the uniforms that are built in, and a manifest may give any
name to a control.  So a uniform that is built in carries the value of the frame exactly as
long as no control of its name has settled on another one.
-/

namespace LiveShader.Session

open LiveShader.Device LiveShader.Playback LiveShader.Manifest

/-- The names that are built in, with their values in a frame. -/
def builtinValues (names : Program.BuiltinNames) (frame : Program.FrameUniforms) :
    List (String × Uniform.Value) :=
  [(names.resolution, .vec2 frame.resolution.1 frame.resolution.2), (names.time, .float frame.time),
    (names.mouse, .vec2 frame.mouse.x frame.mouse.y)]

section Writes

variable {δ : Type} [Device δ]

/-- Only one value is written last. -/
theorem LastWrite.unique {writes : List (Write δ)} {slot : Slot (Journaled δ)}
    {value other : Uniform.Value} (left : LastWrite writes slot value)
    (right : LastWrite writes slot other) : value = other := by
  classical
  have last : ∀ {value}, LastWrite writes slot value →
      (writes.filter fun write => write.1.slot = slot.slot).getLast? = some (slot, value) := by
    rintro value ⟨earlier, later, rfl, apart⟩
    have none' : later.filter (fun write => write.1.slot = slot.slot) = [] := by
      rw [List.filter_eq_nil_iff]
      intro write member
      simpa using apart write member
    rw [List.filter_append, List.filter_cons_of_pos (by simp), none']
    simp
  have same := (last left).symm.trans (last right)
  cases same
  rfl

variable {player : Player (Journaled δ)} {session : Session (Journaled δ)}
  {controls : List Control.Spec} {since : List Request} {before built : Journaled δ}
  {source : String} {frame : Program.FrameUniforms}

/-- A uniform that is built in stands in front of the others that are, and of the controls. -/
theorem Installed.builtins_split (installed : Installed player session controls since built)
    (standard : player.builtins = .standard) {name : String} {value : Uniform.Value}
    (member : (name, value) ∈ builtinValues .standard frame) :
    ∃ front binding back, session.bindings.builtins frame = front ++ (binding, some value) :: back ∧
      binding.name = name ∧ ∀ entry ∈ back, entry.1.name ≠ name := by
  have names : "time" ≠ "resolution" ∧ "mouse" ≠ "resolution" ∧ "mouse" ≠ "time" := by decide
  rw [Program.Bindings.builtins, installed.bindings, standard]
  simp only [builtinValues, List.mem_cons, Prod.mk.injEq, List.not_mem_nil, or_false] at member
  rcases member with ⟨rfl, rfl⟩ | ⟨rfl, rfl⟩ | ⟨rfl, rfl⟩
  · refine ⟨[], _, _, rfl, rfl, ?_⟩
    intro entry later
    simp only [List.mem_cons, List.not_mem_nil, or_false] at later
    rcases later with rfl | rfl
    · exact names.1
    · exact names.2.1
  · refine ⟨[_], _, _, rfl, rfl, ?_⟩
    intro entry later
    rw [List.mem_singleton.mp later]
    exact names.2.2
  · exact ⟨[_, _], _, _, rfl, rfl, by simp⟩

/-- Without a control of its name, a uniform that is built in is written last itself. -/
theorem Installed.lastWrite_builtin (installed : Installed player session controls since built)
    (distinct : Program.DistinctPlaces δ)
    (build : Program.build before source = (.ok session.program, built))
    (standard : player.builtins = .standard) {name : String} {value : Uniform.Value}
    (member : (name, value) ∈ builtinValues .standard frame)
    (free : ∀ spec ∈ controls, spec.name ≠ name) {slot : Slot (Journaled δ)}
    (found : Device.slot? built session.program name = some slot) :
    LastWrite (session.bindings.writes frame player.inputs.controls) slot value := by
  obtain ⟨front, binding, back, split, rfl, apart⟩ := installed.builtins_split standard member
  have whole := installed.valued_eq frame
  rw [split, List.append_assoc, List.cons_append] at whole
  refine installed.lastWrite distinct build whole ?_ found
  intro entry later
  rcases List.mem_append.mp later with builtin | control
  · exact apart entry builtin
  · obtain ⟨spec, present, rfl⟩ := List.mem_map.mp control
    exact free spec present

/-- A control of its name takes its place, unless both carry the same value. -/
theorem Installed.lastWrite_builtin_iff (installed : Installed player session controls since built)
    (distinct : Program.DistinctPlaces δ)
    (build : Program.build before source = (.ok session.program, built))
    (declared : Control.Spec.Declared controls) (standard : player.builtins = .standard)
    {name : String} {value : Uniform.Value} (member : (name, value) ∈ builtinValues .standard frame)
    {slot : Slot (Journaled δ)} (found : Device.slot? built session.program name = some slot) :
    LastWrite (session.bindings.writes frame player.inputs.controls) slot value ↔
      ∀ spec ∈ controls, spec.name = name →
        Control.Values.upload? (spec.settled (changes since)) = some value := by
  constructor
  · rintro carries spec present rfl
    obtain ⟨settled, shape, last⟩ :=
      installed.lastWrite_control distinct build declared present found
    rw [shape, carries.unique last]
  · intro agree
    by_cases clash : ∃ spec ∈ controls, spec.name = name
    · obtain ⟨spec, present, rfl⟩ := clash
      obtain ⟨settled, shape, last⟩ :=
        installed.lastWrite_control distinct build declared present found
      cases shape.symm.trans (agree spec present rfl)
      exact last
    · exact installed.lastWrite_builtin distinct build standard member
        (fun spec present same => clash ⟨spec, present, same⟩) found

end Writes

/-- A number between zero and four, at one, under a name. -/
def numberDeclaration (name : String) : Declaration :=
  ⟨name, .float, some (Number.doubleOfInt 0), some (Number.doubleOfInt 4),
    some (.float (Number.doubleOfInt 1))⟩

/-- The control that it yields. -/
def numberSpec (name : String) : Control.Spec :=
  ⟨name, .float (Number.singleOfInt 0) (Number.singleOfInt 4), .float (Number.singleOfInt 1)⟩

/-- Two writes to the place of the time: the elapsed time, and one. -/
def writtenTwice (elapsed : Number.Single) : List (Write Scripted) :=
  [(⟨2, "time", ⟨3, 0⟩⟩, .float elapsed), (⟨2, "time", ⟨3, 0⟩⟩, .float (Number.singleOfInt 1))]

end LiveShader.Session
