import LiveShader.Proofs.Uniform.Layout
import LiveShader.Uniform.Block

/-!
# What a block holds

A value takes all bytes of its slot and no others.  So after any number of writes a block
still has the size of the viewport in front, every slot holds the last value that was
written to it and fits it, and the bytes between the slots are zero.
-/

namespace LiveShader.Uniform

/-! ## Values in bytes -/

/-- A value that fits a type has the size of the type. -/
theorem length_of_encode? {type : DataType} {value : Value} {bytes : List UInt8}
    (encoded : encode? type value = some bytes) : bytes.length = type.size := by
  unfold encode? at encoded
  split at encoded
  all_goals cases encoded
  all_goals rfl

namespace Block

variable {block : Block} {bytes : List UInt8} {offset start size position : Nat} {slot : Slot}
  {value : Value}

/-- Some bytes of a block. -/
def slice (block : Block) (offset size : Nat) : List UInt8 := (block.drop offset).take size

/-! ## Putting bytes -/

theorem length_put : (block.put offset bytes).length = block.length := by
  rw [put]
  split
  · simp only [List.length_append, List.length_take, List.length_drop]
    omega
  · rfl

theorem getElem?_put_outside (outside : position < offset ∨ offset + bytes.length ≤ position) :
    (block.put offset bytes)[position]? = block[position]? := by
  rw [put]
  split
  · have front : (block.take offset).length = offset := by
      rw [List.length_take]
      omega
    rcases outside with before | behind
    · rw [List.append_assoc, List.getElem?_append_left (by omega), List.getElem?_take_of_lt before]
    · rw [List.getElem?_append_right (by rw [List.length_append]; omega), List.getElem?_drop,
        List.length_append, front]
      congr 1
      omega
  · rfl

/-- Bytes that fit are there. -/
theorem slice_put (fits : offset + bytes.length ≤ block.length) :
    (block.put offset bytes).slice offset bytes.length = bytes := by
  have front : (block.take offset).length = offset := by
    rw [List.length_take]
    omega
  rw [put, if_pos fits, slice, List.append_assoc, List.drop_left' front, List.take_left' rfl]

theorem slice_congr {other : Block}
    (same : ∀ position, start ≤ position → position < start + size →
      other[position]? = block[position]?) : other.slice start size = block.slice start size := by
  apply List.ext_getElem?
  intro index
  rw [slice, slice]
  by_cases inside : index < size
  · rw [List.getElem?_take_of_lt inside, List.getElem?_take_of_lt inside, List.getElem?_drop,
      List.getElem?_drop]
    exact same _ (by omega) (by omega)
  · rw [List.getElem?_eq_none (by rw [List.length_take]; omega),
      List.getElem?_eq_none (by rw [List.length_take]; omega)]

theorem slice_zeroed {total : Nat} (fits : offset + size ≤ total) :
    (zeroed total).slice offset size = List.replicate size 0 := by
  rw [zeroed, slice, List.drop_replicate, List.take_replicate, Nat.min_eq_left (by omega)]

/-! ## Writing values -/

theorem length_write : (block.write slot value).length = block.length := by
  rw [write]
  split
  · exact length_put
  · rfl

/-- A value that does not fit its slot changes nothing. -/
theorem write_of_unfit (unfit : encode? slot.type value = none) :
    block.write slot value = block := by
  rw [write, unfit]

/-- A write changes no byte outside its slot. -/
theorem getElem?_write_of_outside (outside : ¬ slot.Covers position) :
    (block.write slot value)[position]? = block[position]? := by
  rw [write]
  split
  · rename_i bytes encoded
    apply getElem?_put_outside
    rw [length_of_encode? encoded]
    rw [Slot.Covers, Slot.stop] at outside
    omega
  · rfl

/-- A write leaves the bytes in front of its slot and behind it as they are. -/
theorem slice_write_of_apart (apart : start + size ≤ slot.offset ∨ slot.stop ≤ start) :
    (block.write slot value).slice start size = block.slice start size := by
  apply slice_congr
  intro position above below
  apply getElem?_write_of_outside
  rw [Slot.Covers]
  omega

/-- A value that fits its slot is there. -/
theorem slice_write (encoded : encode? slot.type value = some bytes)
    (fits : slot.stop ≤ block.length) :
    (block.write slot value).slice slot.offset slot.type.size = bytes := by
  have length := length_of_encode? encoded
  rw [write, encoded, ← length]
  apply slice_put
  rw [length]
  exact fits

end Block

/-! ## After any number of writes -/

/-- The bytes of the values that were written to a slot and fit it. -/
def Slot.encodings (slot : Slot) (writes : List (Slot × Value)) : List (List UInt8) :=
  writes.filterMap fun (target, value) => if target = slot then encode? slot.type value else none

/-- The bytes of the last value that was written to a slot and fits it; zeros without one. -/
def Slot.held (slot : Slot) (writes : List (Slot × Value)) : List UInt8 :=
  (slot.encodings writes).getLast?.getD (List.replicate slot.type.size 0)

section Held

variable {slot other : Slot} {value : Value} {writes : List (Slot × Value)}

theorem Slot.held_concat_of_fits {bytes : List UInt8}
    (encoded : encode? slot.type value = some bytes) :
    slot.held (writes ++ [(slot, value)]) = bytes := by
  simp [Slot.held, Slot.encodings, encoded]

theorem Slot.held_concat_of_unfit (unfit : encode? slot.type value = none) :
    slot.held (writes ++ [(slot, value)]) = slot.held writes := by
  simp [Slot.held, Slot.encodings, unfit]

theorem Slot.held_concat_of_ne (differ : other ≠ slot) :
    slot.held (writes ++ [(other, value)]) = slot.held writes := by
  simp [Slot.held, Slot.encodings, differ]

end Held

/-- What a block holds after some writes to the slots of a layout. -/
structure Block.Holds (layout : Layout) (width height : Nat) (writes : List (Slot × Value))
    (block : Block) : Prop where
  length : block.length = layout.size
  viewport : block.slice 0 DataType.vec2.size =
    floatBytes (Number.singleOfInt width) ++ floatBytes (Number.singleOfInt height)
  slots : ∀ name slot, layout.slot? name = some slot →
    block.slice slot.offset slot.type.size = slot.held writes
  elsewhere : ∀ position, DataType.vec2.size ≤ position → position < layout.size →
    (∀ name slot, layout.slot? name = some slot → ¬ slot.Covers position) →
      block[position]? = some 0

namespace Block.Holds

variable {layout : Layout} {width height : Nat} {writes : List (Slot × Value)} {block : Block}

/-- A new block holds the viewport and zeros. -/
theorem start (made : layout.Pushed) (width height : Nat) :
    Holds layout width height [] ((zeroed layout.size).setViewport width height) := by
  have room : DataType.vec2.size ≤ layout.size :=
    Nat.le_trans made.viewport_le_cursor (Number.le_nextMultiple _ (by decide))
  have zero : ∀ position, DataType.vec2.size ≤ position →
      ((zeroed layout.size).setViewport width height)[position]? =
        (zeroed layout.size)[position]? :=
    fun position behind => getElem?_put_outside (Or.inr behind)
  constructor
  · rw [setViewport, length_put]
    exact List.length_replicate
  · rw [setViewport]
    exact slice_put (by rw [zeroed, List.length_replicate]; exact room)
  · intro name slot found
    have low := (made.inside found).1
    have high := made.stop_le_size found
    have clear := slice_congr fun position above (_ : position < slot.offset + slot.type.size) =>
      zero position (Nat.le_trans low above)
    exact clear.trans (slice_zeroed high)
  · intro position behind within _
    rw [zero position behind, zeroed, List.getElem?_replicate_of_lt within]

/-- One more write. -/
theorem write (holds : Holds layout width height writes block) (made : layout.Pushed)
    {name : String} {slot : Slot} (found : layout.slot? name = some slot) (value : Value) :
    Holds layout width height (writes ++ [(slot, value)]) (block.write slot value) := by
  have low := (made.inside found).1
  constructor
  · rw [length_write, holds.length]
  · rw [← holds.viewport]
    exact slice_write_of_apart (Or.inl (by omega))
  · intro other target foundTarget
    by_cases same : slot = target
    · subst same
      cases encoded : encode? slot.type value with
      | some bytes =>
          rw [Slot.held_concat_of_fits encoded]
          apply slice_write encoded
          rw [holds.length]
          exact made.stop_le_size found
      | none =>
          rw [Slot.held_concat_of_unfit encoded, write_of_unfit encoded]
          exact holds.slots name slot found
    · have differ : name ≠ other := by
        rintro rfl
        exact same (Option.some.inj (found.symm.trans foundTarget))
      rw [Slot.held_concat_of_ne same, ← holds.slots other target foundTarget]
      exact slice_write_of_apart (made.apart found foundTarget differ).symm
  · intro position behind within outside
    rw [getElem?_write_of_outside (outside name slot found)]
    exact holds.elsewhere position behind within outside

/-- Any number of writes. -/
theorem writeAll (holds : Holds layout width height writes block) (made : layout.Pushed)
    {more : List (Slot × Value)}
    (known : ∀ write ∈ more, ∃ name, layout.slot? name = some write.1) :
    Holds layout width height (writes ++ more)
      (more.foldl (fun block write => block.write write.1 write.2) block) := by
  induction more generalizing writes block with
  | nil =>
      rw [List.append_nil]
      exact holds
  | cons first rest ih =>
      obtain ⟨name, found⟩ := known first List.mem_cons_self
      have later := ih (holds.write made found first.2)
        fun write member => known write (List.mem_cons_of_mem first member)
      rw [List.append_assoc] at later
      exact later

end Block.Holds

end LiveShader.Uniform
