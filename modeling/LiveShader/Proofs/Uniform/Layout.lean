import LiveShader.Source.Translation

/-!
# Layouts that grow

A layout is made by pushing names onto the empty one.  A push leaves every slot where it
is, so a name keeps the slot of its first declaration, and no name has two fields.  A new
slot lies behind all others, so no two slots share a byte.
-/

namespace LiveShader.Uniform

/-- Layouts that are made by pushing names, each push a success. -/
inductive Layout.Pushed : Layout → Prop where
  | empty : Pushed .empty
  | push {layout after : Layout} {name : String} {type : DataType} (made : Pushed layout)
      (pushed : layout.push name type = .ok after) : Pushed after

/-- Layouts that are made by pushing identifiers, each push a success. -/
inductive Layout.Built : Layout → Prop where
  | empty : Built .empty
  | push {layout after : Layout} {name : String} {type : DataType} (built : Built layout)
      (identifier : Source.isIdentifier name.toList = true)
      (pushed : layout.push name type = .ok after) : Built after

theorem Layout.Built.pushed {layout : Layout} (built : Built layout) : Pushed layout := by
  induction built with
  | empty => exact .empty
  | push built identifier pushed ih => exact ih.push pushed

/-! ## Slots -/

namespace Slot

/-- Where a slot ends. -/
def stop (slot : Slot) : Nat := slot.offset + slot.type.size

/-- The slot has the byte at a position. -/
def Covers (slot : Slot) (position : Nat) : Prop :=
  slot.offset ≤ position ∧ position < slot.stop

/-- One slot ends before the other begins. -/
def Apart (first second : Slot) : Prop :=
  first.stop ≤ second.offset ∨ second.stop ≤ first.offset

end Slot

theorem DataType.size_pos (type : DataType) : 0 < type.size := by
  cases type <;> decide

namespace Layout

variable {layout after : Layout} {name other : String} {type : DataType}

/-- What a push does: the name is there with its type, or it is new and comes last. -/
theorem push_cases (pushed : layout.push name type = .ok after) :
    (∃ field, layout.field? name = some field ∧ field.slot.type = type ∧ after = layout) ∨
      layout.field? name = none ∧ ∃ offset, layout.cursor ≤ offset ∧
        after.fields = layout.fields ++ [⟨name, ⟨offset, type⟩⟩] ∧
        after.cursor = offset + type.size := by
  rw [push] at pushed
  cases found : layout.field? name with
  | some field =>
      rw [found] at pushed
      dsimp only at pushed
      split at pushed
      · rename_i same
        cases pushed
        exact Or.inl ⟨field, rfl, same, rfl⟩
      · cases pushed
  | none =>
      rw [found] at pushed
      cases pushed
      exact Or.inr ⟨rfl, _, Number.le_nextMultiple _ type.size_pos, rfl, rfl⟩

theorem field?_append (appended : after.fields = layout.fields ++ [field]) (name : String) :
    after.field? name =
      (layout.field? name).or (if field.name = name then some field else none) := by
  rw [field?, field?, appended, List.find?_append]
  by_cases same : field.name = name
  · simp [same]
  · simp [same]

/-- A slot in a longer layout is one of before, or the new one. -/
theorem slot?_appended {slot new : Slot}
    (appended : after.fields = layout.fields ++ [⟨name, new⟩])
    (found : after.slot? other = some slot) :
    layout.slot? other = some slot ∨ name = other ∧ slot = new := by
  rw [slot?, field?_append appended] at found
  rw [slot?]
  cases early : layout.field? other with
  | some field =>
      rw [early] at found
      exact Or.inl found
  | none =>
      rw [early, Option.none_or] at found
      split at found
      · rename_i same
        exact Or.inr ⟨same, (Option.some.inj found).symm⟩
      · cases found

/-- A name that was pushed has a slot of its type. -/
theorem slot?_push (pushed : layout.push name type = .ok after) :
    ∃ offset, after.slot? name = some ⟨offset, type⟩ := by
  rcases push_cases pushed with ⟨field, found, same, rfl⟩ | ⟨absent, offset, _, appended, _⟩
  · refine ⟨field.slot.offset, ?_⟩
    rw [slot?, found, ← same]
    rfl
  · refine ⟨offset, ?_⟩
    rw [slot?, field?_append appended, absent]
    simp

/-- A push moves no slot. -/
theorem slot?_of_push (pushed : layout.push name type = .ok after) {slot : Slot}
    (found : layout.slot? other = some slot) : after.slot? other = some slot := by
  rcases push_cases pushed with ⟨_, _, _, rfl⟩ | ⟨_, offset, _, appended, _⟩
  · exact found
  · rw [slot?] at found ⊢
    obtain ⟨field, present, rfl⟩ := Option.map_eq_some_iff.mp found
    rw [field?_append appended, present]
    rfl

namespace Pushed

/-- A field is found under its name. -/
theorem field?_eq (made : Pushed layout) :
    ∀ field ∈ layout.fields, layout.field? field.name = some field := by
  induction made with
  | empty =>
      intro field member
      cases member
  | push made pushed ih =>
      rcases push_cases pushed with ⟨_, _, _, rfl⟩ | ⟨absent, offset, _, appended, _⟩
      · exact ih
      · intro field member
        rw [appended] at member
        rw [field?_append appended]
        rcases List.mem_append.mp member with early | last
        · rw [ih field early]
          rfl
        · rw [List.mem_singleton.mp last, absent]
          simp

theorem viewport_le_cursor (made : Pushed layout) : DataType.vec2.size ≤ layout.cursor := by
  induction made with
  | empty => exact Nat.le_refl _
  | push made pushed ih =>
      rcases push_cases pushed with ⟨_, _, _, rfl⟩ | ⟨_, offset, above, _, cursor⟩
      · exact ih
      · omega

/-- Every slot lies between the viewport and the cursor. -/
theorem inside (made : Pushed layout) {slot : Slot} (found : layout.slot? name = some slot) :
    DataType.vec2.size ≤ slot.offset ∧ slot.stop ≤ layout.cursor := by
  induction made with
  | empty => cases found
  | push made pushed ih =>
      rcases push_cases pushed with ⟨_, _, _, rfl⟩ | ⟨_, offset, above, appended, cursor⟩
      · exact ih found
      · have low := made.viewport_le_cursor
        rcases slot?_appended appended found with early | ⟨_, rfl⟩
        · have bounds := ih early
          omega
        · exact ⟨Nat.le_trans low above, Nat.le_of_eq cursor.symm⟩

/-- The slots of different names share no byte. -/
theorem apart (made : Pushed layout) {first second : Slot}
    (foundFirst : layout.slot? name = some first)
    (foundSecond : layout.slot? other = some second) (differ : name ≠ other) :
    first.Apart second := by
  induction made with
  | empty => cases foundFirst
  | push made pushed ih =>
      rcases push_cases pushed with ⟨_, _, _, rfl⟩ | ⟨_, offset, above, appended, _⟩
      · exact ih foundFirst foundSecond
      · rcases slot?_appended appended foundFirst with early | ⟨rfl, rfl⟩
        · rcases slot?_appended appended foundSecond with earlier | ⟨_, rfl⟩
          · exact ih early earlier
          · exact Or.inl (Nat.le_trans (made.inside early).2 above)
        · rcases slot?_appended appended foundSecond with early | ⟨rfl, rfl⟩
          · exact Or.inr (Nat.le_trans (made.inside early).2 above)
          · exact absurd rfl differ

/-- The whole block has room for every slot. -/
theorem stop_le_size (made : Pushed layout) {slot : Slot}
    (found : layout.slot? name = some slot) : slot.stop ≤ layout.size :=
  Nat.le_trans (made.inside found).2 (Number.le_nextMultiple _ (by decide))

end Pushed

namespace Built

theorem identifiers (built : Built layout) :
    ∀ field ∈ layout.fields, Source.isIdentifier field.name.toList = true := by
  induction built with
  | empty =>
      intro field member
      cases member
  | push built identifier pushed ih =>
      rcases push_cases pushed with ⟨_, _, _, rfl⟩ | ⟨_, offset, _, appended, _⟩
      · exact ih
      · intro field member
        rw [appended] at member
        rcases List.mem_append.mp member with early | last
        · exact ih field early
        · rw [List.mem_singleton.mp last]
          exact identifier

end Built

end Layout

end LiveShader.Uniform
