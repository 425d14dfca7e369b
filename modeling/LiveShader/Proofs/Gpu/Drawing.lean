import LiveShader.Gpu.Recorder
import LiveShader.Proofs.Program.Binding
import LiveShader.Proofs.Source.LineMap
import LiveShader.Proofs.Uniform.Block

/-!
# What a draw hands over

The bytes that a draw hands to the hardware are those of the program that was bound last
and of what was written to its slots since then.  Neither an earlier program nor an
earlier frame leaves anything behind in them.
-/

namespace LiveShader.Gpu

open LiveShader.Uniform

namespace Recorder

/-- Writes some uniforms of the bound program, one after the other. -/
def setUniforms (device : Recorder) (writes : List (Slot × Value)) : Recorder :=
  writes.foldl (fun device write => device.setUniform write.1 write.2) device

/-- The block of a program that was bound, after some writes. -/
def blockOf (device : Recorder) (program : Program) (writes : List (Slot × Value)) : Block :=
  ((device.bindProgram program).setUniforms writes).block

section Writes

variable {device : Recorder} {writes : List (Slot × Value)}

/-- Uniforms reach the block and nothing else. -/
theorem setUniforms_eq : device.setUniforms writes =
    { device with
      block := writes.foldl (fun block write => block.write write.1 write.2) device.block } := by
  induction writes generalizing device with
  | nil => rfl
  | cons write rest ih => exact ih

/-- A draw into a frame hands the block to the buffer of the bound program. -/
theorem commands_draw {program : Program} (bound : device.bound = some program) :
    device.draw.commands =
      (if device.isInFrame then
        [.drawTriangle, .beginPass .drawOver, .writeBuffer program.buffer 0 device.block]
      else []) ++ device.commands := by
  rw [draw, bound]
  cases device.isInFrame with
  | false => rfl
  | true => rfl

theorem blockOf_eq (device : Recorder) (program : Program) (writes : List (Slot × Value)) :
    device.blockOf program writes =
      writes.foldl (fun block write => block.write write.1 write.2)
        (device.bindProgram program).block := by
  rw [blockOf, setUniforms_eq]

/-- One more write to the block. -/
theorem blockOf_concat (device : Recorder) (program : Program) (writes : List (Slot × Value))
    (slot : Slot) (value : Value) :
    device.blockOf program (writes ++ [(slot, value)]) =
      (device.blockOf program writes).write slot value := by
  rw [blockOf_eq, blockOf_eq, List.foldl_append]
  rfl

end Writes

/--
The bytes drawn are the uniforms of the frame and nothing else.  Whatever the block held
before a program with slots of its own was bound, the bytes handed over at the next draw
have the size of its layout; they hold the viewport in front, and in every slot the last
value that was written to it and fits; and they are zero everywhere else.  One more write
changes no byte outside its slot, and nothing at all if the value does not fit.
-/
theorem holds_of_draw (device : Recorder) {program : Program} (made : program.layout.Pushed)
    {writes : List (Slot × Value)}
    (known : ∀ write ∈ writes, ∃ name, program.layout.slot? name = some write.1) :
    (((device.bindProgram program).setUniforms writes).draw.commands =
      (if device.isInFrame then
        [.drawTriangle, .beginPass .drawOver,
          .writeBuffer program.buffer 0 (device.blockOf program writes)]
      else []) ++ device.commands) ∧
    Block.Holds program.layout device.configuration.size.width device.configuration.size.height
      writes (device.blockOf program writes) ∧
    ∀ name slot value, program.layout.slot? name = some slot →
      (∀ position, ¬ slot.Covers position →
        (device.blockOf program (writes ++ [(slot, value)]))[position]? =
          (device.blockOf program writes)[position]?) ∧
      (encode? slot.type value = none →
        device.blockOf program (writes ++ [(slot, value)]) = device.blockOf program writes) := by
  refine ⟨?_, ?_, ?_⟩
  · have bound : ((device.bindProgram program).setUniforms writes).bound = some program := by
      rw [setUniforms_eq]
      rfl
    rw [commands_draw bound, blockOf, setUniforms_eq]
    rfl
  · rw [blockOf_eq]
    have start := Block.Holds.start made device.configuration.size.width
      device.configuration.size.height
    have held := start.writeAll made known
    rw [List.nil_append] at held
    exact held
  · intro name slot value _
    rw [blockOf_concat]
    exact ⟨fun position outside => Block.getElem?_write_of_outside outside,
      Block.write_of_unfit⟩

/-- A program with a truth value and a vector. -/
def flagAndTint : Program :=
  ⟨7, ⟨[⟨"flag", ⟨8, .bool⟩⟩, ⟨"tint", ⟨16, .vec3⟩⟩], 32⟩⟩

/-- A frame of it on a device with a longer block from before, and one value that does not fit. -/
theorem holds_flagAndTint :
    let device : Recorder :=
      { configuration := ⟨⟨1, 2⟩, .rgba8, .fifo, .automatic⟩
        isInFrame := true
        bound := none
        block := List.replicate 48 255
        nextBuffer := 8
        surfaceErrors := []
        readFaults := []
        commands := [] }
    let writes : List (Slot × Value) :=
      [(⟨16, .vec3⟩, .vec3 ⟨0⟩ ⟨1⟩ ⟨2⟩), (⟨8, .bool⟩, .int 5), (⟨16, .vec3⟩, .float ⟨3⟩)]
    flagAndTint.layout.Pushed ∧
      (∀ write ∈ writes, ∃ name, flagAndTint.layout.slot? name = some write.1) ∧
      ((device.bindProgram flagAndTint).setUniforms writes).draw.commands =
        [.drawTriangle, .beginPass .drawOver, .writeBuffer 7 0
          ([0, 0, 128, 63, 0, 0, 0, 64] ++ [1, 0, 0, 0] ++ [0, 0, 0, 0] ++
            [0, 0, 0, 0, 1, 0, 0, 0, 2, 0, 0, 0, 0, 0, 128, 63])] ∧
      Block.Holds flagAndTint.layout 1 2 writes (device.blockOf flagAndTint writes) := by
  intro device writes
  have made : flagAndTint.layout.Pushed := by
    have first : Layout.empty.push "flag" .bool = .ok ⟨[⟨"flag", ⟨8, .bool⟩⟩], 12⟩ := rfl
    have second : Layout.push ⟨[⟨"flag", ⟨8, .bool⟩⟩], 12⟩ "tint" .vec3 =
        .ok flagAndTint.layout := rfl
    exact (Layout.Pushed.empty.push first).push second
  have known : ∀ write ∈ writes, ∃ name, flagAndTint.layout.slot? name = some write.1 := by
    intro write member
    simp only [writes, List.mem_cons, List.not_mem_nil, or_false] at member
    rcases member with rfl | rfl | rfl
    · exact ⟨"tint", by decide⟩
    · exact ⟨"flag", by decide⟩
    · exact ⟨"tint", by decide⟩
  obtain ⟨commands, holds, _⟩ := holds_of_draw device made known
  refine ⟨made, known, commands.trans ?_, holds⟩
  decide

/-! ## Programs that were built -/

/-- The layout of a translation is made by pushes. -/
theorem pushed_of_translate {stage : Device.Stage} {source : String}
    {translation : Source.Translation} (translated : translate? stage source = .ok translation) :
    translation.layout.Pushed := by
  cases stage with
  | vertex =>
      rw [translate?] at translated
      split at translated
      · rename_i found made
        cases translated
        obtain ⟨_, _, rfl⟩ := Option.map_eq_some_iff.mp made
        exact .empty
      · cases translated
  | fragment =>
      rw [translate?] at translated
      cases made : Source.translateFragment source.toList with
      | error fault =>
          rw [made] at translated
          cases translated
      | ok found =>
          rw [made] at translated
          cases translated
          obtain ⟨_, _, _, rfl⟩ := Source.translateFragment_cases made
          exact (Source.Scan.built_lines .empty _).pushed

theorem pushed_of_compile {device : Recorder} {stage : Device.Stage} {source : String}
    {compiled : Stage} (made : (device.compile stage source).1 = .ok compiled) :
    compiled.layout.Pushed := by
  rw [compile] at made
  split at made
  · cases made
  · rename_i translation translated
    split at made
    · cases made
    · split at made
      · cases made
      · cases made
        exact pushed_of_translate translated

theorem layout_of_link {device : Recorder} {vertex fragment : Stage} {program : Program}
    (made : (device.link vertex fragment).1 = .ok program) :
    program.layout = fragment.layout := by
  rw [link] at made
  split at made
  · cases made
  · cases made
    rfl

/-- A program that was built has a layout made by pushes. -/
theorem pushed_of_build {before built : Recorder} {source : String} {program : Program}
    (made : Program.build before source = (.ok program, built)) : program.layout.Pushed := by
  obtain ⟨compiling, linking, vertex, fragment, compiled, linked⟩ := Program.linked_of_build made
  rw [layout_of_link linked]
  exact pushed_of_compile compiled

/-- Different uniforms of a program that was built have different slots. -/
theorem distinctPlaces : LiveShader.Program.DistinctPlaces Recorder := by
  intro before built source program made first second slot foundFirst foundSecond
  by_contra differ
  have apart := (pushed_of_build made).apart foundFirst foundSecond differ
  have room := slot.type.size_pos
  rw [Slot.Apart, Slot.stop] at apart
  omega

end Recorder

end LiveShader.Gpu
