import LiveShader.Program.Binding
import LiveShader.Program.Build

/-!
# The writes of an upload

An upload is a sequence of writes, one for each uniform that has a place and a value: the
three that are built in, then the controls in the order of their declaration.
-/

namespace LiveShader.Program

/-! ## Built programs -/

/-- A program that was built was linked from its compiled fragment stage. -/
theorem linked_of_build {δ : Type} [Device δ] {before built : δ} {source : String}
    {program : Device.Program δ} (made : build before source = (.ok program, built)) :
    ∃ (compiling linking : δ) (vertex fragment : Device.StageObject δ),
      (Device.compile compiling .fragment source).1 = .ok fragment ∧
        (Device.link linking vertex fragment).1 = .ok program := by
  rw [build] at made
  split at made
  · cases made
  · rename_i vertex compiling _
    split at made
    · cases made
    · rename_i fragment linking compiled
      refine ⟨compiling, linking, vertex, fragment, ?_, ?_⟩
      · rw [compileStage] at compiled
        split at compiled
        · rename_i answered
          cases compiled
          rw [answered]
        · cases compiled
      · cases answer : Device.link linking vertex fragment with
        | mk linked device =>
            rw [answer] at made
            cases linked with
            | ok linked =>
                cases made
                rfl
            | error log => cases made

/-- Devices on which different uniforms of a program that was built have different places. -/
def DistinctPlaces (δ : Type) [Device δ] : Prop :=
  ∀ (before built : δ) source program, build before source = (.ok program, built) →
    ∀ first second slot, Device.slot? built program first = some slot →
      Device.slot? built program second = some slot → first = second

/-! ## Writes -/

variable {slot : Type}

/-- What is written for a uniform: its value at its place, if it has both. -/
def Binding.write? (binding : Binding slot) (value : Option Uniform.Value) :
    Option (slot × Uniform.Value) :=
  binding.place.bind fun place => value.map fun value => (place, value)

theorem Binding.place_of_write? {binding : Binding slot} {value : Option Uniform.Value}
    {write : slot × Uniform.Value} (written : binding.write? value = some write) :
    binding.place = some write.1 ∧ value = some write.2 := by
  obtain ⟨place, found, rest⟩ := Option.bind_eq_some_iff.mp written
  obtain ⟨value, given, rfl⟩ := Option.map_eq_some_iff.mp rest
  exact ⟨found, given⟩

namespace Bindings

/-- The uniforms that are built in, with their values in a frame. -/
def builtins (bindings : Bindings slot) (frame : FrameUniforms) :
    List (Binding slot × Option Uniform.Value) :=
  [(bindings.resolution, some (.vec2 frame.resolution.1 frame.resolution.2)),
    (bindings.time, some (.float frame.time)),
    (bindings.mouse, some (.vec2 frame.mouse.x frame.mouse.y))]

/-- The uniforms of a frame with their values, in the order of the upload. -/
def valued (bindings : Bindings slot) (frame : FrameUniforms) (values : Control.Values) :
    List (Binding slot × Option Uniform.Value) :=
  bindings.builtins frame ++
    bindings.controls.map fun binding => (binding, values.uniform? binding.name)

/-- The writes of an upload. -/
def writes (bindings : Bindings slot) (frame : FrameUniforms) (values : Control.Values) :
    List (slot × Uniform.Value) :=
  (bindings.valued frame values).filterMap fun (binding, value) => binding.write? value

theorem map_valued (bindings : Bindings slot) (frame : FrameUniforms) (values : Control.Values) :
    (bindings.valued frame values).map Prod.fst = bindings.toList := by
  simp [valued, builtins, toList, Function.comp_def]

/-- Everything is written to the place of a uniform. -/
theorem place_of_mem_writes {bindings : Bindings slot} {frame : FrameUniforms}
    {values : Control.Values} {write : slot × Uniform.Value}
    (member : write ∈ bindings.writes frame values) :
    ∃ binding ∈ bindings.toList, binding.place = some write.1 := by
  obtain ⟨⟨binding, value⟩, present, written⟩ := List.mem_filterMap.mp member
  refine ⟨binding, ?_, (Binding.place_of_write? written).1⟩
  rw [← map_valued bindings frame values]
  exact List.mem_map_of_mem present

section Upload

variable {δ : Type} [Device δ]

/-- Some writes, one after the other. -/
def setAll (device : δ) (writes : List (Device.Slot δ × Uniform.Value)) : δ :=
  writes.foldl (fun device write => Device.setUniform device write.1 write.2) device

theorem setAll_append (device : δ) (first second : List (Device.Slot δ × Uniform.Value)) :
    setAll device (first ++ second) = setAll (setAll device first) second :=
  List.foldl_append

theorem write_eq (device : δ) (binding : Binding (Device.Slot δ)) (value : Uniform.Value) :
    write device binding value = setAll device (binding.write? (some value)).toList := by
  rw [write, Binding.write?]
  cases binding.place <;> rfl

theorem writeControl_eq (values : Control.Values) (device : δ)
    (binding : Binding (Device.Slot δ)) :
    writeControl values device binding =
      setAll device (binding.write? (values.uniform? binding.name)).toList := by
  rw [writeControl]
  cases values.uniform? binding.name with
  | none =>
      rw [Binding.write?]
      cases binding.place <;> rfl
  | some value => exact write_eq device binding value

theorem writeControls_eq (values : Control.Values) (device : δ)
    (controls : List (Binding (Device.Slot δ))) :
    controls.foldl (writeControl values) device =
      setAll device
        (controls.filterMap fun binding => binding.write? (values.uniform? binding.name)) := by
  induction controls generalizing device with
  | nil => rfl
  | cons binding rest ih =>
      rw [List.foldl_cons, writeControl_eq, ih, ← setAll_append]
      congr 1
      rw [List.filterMap_cons]
      cases binding.write? (values.uniform? binding.name) <;> rfl

/-- An upload makes its writes in their order. -/
theorem upload_eq (bindings : Bindings (Device.Slot δ)) (device : δ) (frame : FrameUniforms)
    (values : Control.Values) :
    bindings.upload device frame values = setAll device (bindings.writes frame values) := by
  rw [upload, writeControls_eq, write_eq, write_eq, write_eq, ← setAll_append, ← setAll_append,
    ← setAll_append]
  congr 1
  simp only [writes, valued, builtins, List.filterMap_append, List.filterMap_cons,
    List.filterMap_nil, List.filterMap_map]
  cases bindings.resolution.write? _ <;> cases bindings.time.write? _ <;>
    cases bindings.mouse.write? _ <;> rfl

end Upload

end Bindings

end LiveShader.Program
