import LiveShader.Proofs.Source.Declaration
import LiveShader.Proofs.Uniform.Layout
import Mathlib.Order.Bounds.Basic

/-!
# Offsets of the declared block

The hardware derives the place of a member from the printed declaration: every member
begins at the least multiple of its base alignment behind the member before it.  A layout
rounds by sizes of its own.  The two agree after any sequence of pushes, because a member
is printed in a type whose alignment and extent are both its size.
-/

namespace LiveShader.Uniform

/-- A member of a block, as it is declared. -/
structure Member where
  type : DataType
  name : String
  deriving Repr, DecidableEq

/-! ## Reading a declaration -/

/-- The member that a line declares: a type, a blank, a name and a semicolon. -/
def Member.ofLine? (line : String) : Option Member := do
  let (word, rest) ← Text.cutOn? Text.isBlank (Text.trimStart line.toList)
  let type ← DataType.ofWord? (String.ofList word)
  let name ← Source.beforeSemicolon? rest
  some ⟨type, String.ofList name⟩

/-- The members on the lines up to a closing brace. -/
def membersUpToBrace? : List String → Option (List Member)
  | [] => none
  | line :: rest =>
      if Text.startsWith line.toList ['\x7d'] then some []
      else do
        let member ← Member.ofLine? line
        let others ← membersUpToBrace? rest
        some (member :: others)

/-- The members of the block with standard layout that some lines begin with. -/
def declaredMembers? : List String → Option (List Member)
  | [] => none
  | opening :: rest =>
      if Text.startsWith opening.toList "layout(std140, ".toList then membersUpToBrace? rest
      else none

/-! ## The rules of the standard layout -/

namespace Std140

/-- The number of four-byte components of a type. -/
def components : DataType → Nat
  | .float | .int | .uint | .bool => 1
  | .vec2 => 2
  | .vec3 => 3
  | .vec4 => 4

/-- The base alignment: one component, two for pairs, and four for longer vectors. -/
def alignment (type : DataType) : Nat :=
  match components type with
  | 1 => 4
  | 2 => 8
  | _ => 16

/-- The bytes that a member takes. -/
def extent (type : DataType) : Nat := 4 * components type

/--
Members that are placed one after the other from a position on, each with its first byte
and the end of its bytes, and where the last one ends.
-/
inductive Placed : Nat → List Member → List (Nat × Nat) → Nat → Prop where
  | nil {position : Nat} : Placed position [] [] position
  | cons {position offset stop : Nat} {member : Member} {rest : List Member}
      {others : List (Nat × Nat)}
      (least : IsLeast {place | position ≤ place ∧ alignment member.type ∣ place} offset)
      (below : Placed (offset + extent member.type) rest others stop) :
      Placed position (member :: rest) ((offset, offset + extent member.type) :: others) stop

theorem Placed.concat {position offset stop : Nat} {members : List Member}
    {places : List (Nat × Nat)} (member : Member) (placed : Placed position members places stop)
    (least : IsLeast {place | stop ≤ place ∧ alignment member.type ∣ place} offset) :
    Placed position (members ++ [member]) (places ++ [(offset, offset + extent member.type)])
      (offset + extent member.type) := by
  induction placed with
  | nil => exact .cons least .nil
  | cons first below ih => exact .cons first (ih least)

/-- The rules leave no choice. -/
theorem Placed.unique {position stop stop' : Nat} {members : List Member}
    {places places' : List (Nat × Nat)} (placed : Placed position members places stop)
    (placed' : Placed position members places' stop') : places' = places ∧ stop' = stop := by
  induction placed generalizing places' stop' with
  | nil =>
      cases placed'
      exact ⟨rfl, rfl⟩
  | cons least below ih =>
      cases placed' with
      | cons least' below' =>
          cases least'.unique least
          obtain ⟨rfl, rfl⟩ := ih below'
          exact ⟨rfl, rfl⟩

end Std140

/-! ## Members of a layout -/

/-- The member that holds the size of the viewport. -/
def viewport : Member := ⟨.vec2, viewportMember⟩

/-- Its slot. -/
def viewportSlot : Slot := ⟨0, .vec2⟩

/-- The member of a uniform. -/
def Field.member (field : Field) : Member := ⟨field.slot.type.storage, memberName field.name⟩

/-- The bytes of a slot. -/
def Slot.place (slot : Slot) : Nat × Nat := (slot.offset, slot.stop)

/-- A member is printed in a type whose alignment is the size of the declared one. -/
theorem alignment_storage (type : DataType) : Std140.alignment type.storage = type.size := by
  cases type <;> rfl

theorem extent_storage (type : DataType) : Std140.extent type.storage = type.size := by
  cases type <;> rfl

theorem isLeast_nextMultiple (value : Nat) {unit : Nat} (positive : 0 < unit) :
    IsLeast {place | value ≤ place ∧ unit ∣ place} (Number.nextMultiple value unit) := by
  constructor
  · exact ⟨Number.le_nextMultiple value positive, Number.dvd_nextMultiple value unit⟩
  · rintro place ⟨above, divides⟩
    exact Number.nextMultiple_le positive above divides

theorem ofLine?_printed (type : DataType) (name : String) :
    Member.ofLine? ("    " ++ type.word ++ " " ++ name ++ ";") = some ⟨type, name⟩ := by
  have blanks : Text.Blanks "    ".toList := List.all_eq_true.mp (by decide)
  have solid : ∀ c ∈ type.word.toList, Text.isBlank c = false := fun c member =>
    Source.isBlank_of_isNameChar ((Source.Declaration.isNameChar_word type).2 c member)
  have bare : Text.trimStart (type.word.toList ++ ' ' :: (name.toList ++ [';'])) =
      type.word.toList ++ ' ' :: (name.toList ++ [';']) := by
    cases type <;> rfl
  have spelled : ("    " ++ type.word ++ " " ++ name ++ ";").toList =
      "    ".toList ++ (type.word.toList ++ ' ' :: (name.toList ++ [';'])) := by
    simp
  have cut : Text.cutOn? Text.isBlank (type.word.toList ++ ' ' :: (name.toList ++ [';'])) =
      some (type.word.toList, name.toList ++ [';']) :=
    Text.cutOn?_eq_some_iff.mpr ⟨' ', rfl, rfl, solid⟩
  have known : DataType.ofWord? type.word = some type :=
    Source.Declaration.ofWord?_eq_some_iff.mpr rfl
  have closed : Source.beforeSemicolon? (name.toList ++ [';']) = some name.toList :=
    Source.Declaration.beforeSemicolon?_eq_some_iff.mpr rfl
  rw [Member.ofLine?, spelled, Text.trimStart_append_left blanks, bare, cut]
  simp [known, closed]

namespace Layout

variable {layout after : Layout} {name other : String} {type : DataType}

theorem membersUpToBrace?_fields (fields : List Field) (rest : List String) :
    membersUpToBrace? (fields.map memberLine ++ "\x7d workshop;" :: rest) =
      some (fields.map Field.member) := by
  induction fields with
  | nil => rfl
  | cons field fields ih =>
      have open' : Text.startsWith (memberLine field).toList ['\x7d'] = false := by
        simp [memberLine, Text.startsWith, Text.after?]
      have own : Member.ofLine? (memberLine field) = some field.member :=
        ofLine?_printed field.slot.type.storage (memberName field.name)
      rw [List.map_cons, List.cons_append, membersUpToBrace?, open', own, ih]
      rfl

/-- The declaration prints the viewport and then a member for each uniform. -/
theorem declaredMembers?_declaration (layout : Layout) :
    declaredMembers? layout.declaration = some (viewport :: layout.fields.map Field.member) := by
  have opened : Text.startsWith
      "layout(std140, set = 0, binding = 0) uniform WorkshopParams \x7b".toList
      "layout(std140, ".toList = true := by decide
  have first : Member.ofLine? "    vec2 workshop_viewport;" = some viewport :=
    ofLine?_printed .vec2 viewportMember
  have fields := membersUpToBrace?_fields layout.fields (layout.fields.map aliasLine)
  have lines : layout.declaration =
      "layout(std140, set = 0, binding = 0) uniform WorkshopParams \x7b" ::
        "    vec2 workshop_viewport;" ::
          (layout.fields.map memberLine ++ "\x7d workshop;" :: layout.fields.map aliasLine) := by
    simp [declaration, viewportMember, blockName]
  have open' : Text.startsWith "    vec2 workshop_viewport;".toList ['\x7d'] = false := by decide
  rw [lines, declaredMembers?, if_pos opened, membersUpToBrace?, open', first, fields]
  rfl

/-! ## Pushes one after the other -/

/-- A layout after a push; one that is refused leaves it as it is. -/
def attempt (layout : Layout) (name : String) (type : DataType) : Layout :=
  match layout.push name type with
  | .ok after => after
  | .error _ => layout

/-- A layout after some pushes, whether they are refused or not. -/
def attemptAll (layout : Layout) (pushes : List (String × DataType)) : Layout :=
  pushes.foldl (fun layout push => layout.attempt push.1 push.2) layout

theorem push_of_absent (absent : layout.field? name = none) :
    layout.push name type =
      .ok ⟨layout.fields ++ [⟨name, ⟨Number.nextMultiple layout.cursor type.size, type⟩⟩],
        Number.nextMultiple layout.cursor type.size + type.size⟩ := by
  rw [push, absent]

/-- A name that is there is taken again with its type only. -/
theorem push_of_slot? {slot : Slot} (found : layout.slot? name = some slot) :
    layout.push name type =
      if slot.type = type then .ok layout else .error ⟨name, type, slot.type⟩ := by
  obtain ⟨field, present, rfl⟩ := Option.map_eq_some_iff.mp found
  rw [push, present]

theorem Pushed.attempt (made : layout.Pushed) (name : String) (type : DataType) :
    (layout.attempt name type).Pushed := by
  rw [Layout.attempt]
  split
  · rename_i pushed
    exact .push made pushed
  · exact made

theorem Pushed.attemptAll (made : layout.Pushed) (pushes : List (String × DataType)) :
    (layout.attemptAll pushes).Pushed := by
  induction pushes generalizing layout with
  | nil => exact made
  | cons push rest ih => exact ih (made.attempt push.1 push.2)

theorem slot?_attempt (layout : Layout) (name : String) (type : DataType) {slot : Slot}
    (found : layout.slot? other = some slot) :
    (layout.attempt name type).slot? other = some slot := by
  rw [attempt]
  split
  · rename_i pushed
    exact slot?_of_push pushed found
  · exact found

theorem slot?_attemptAll (pushes : List (String × DataType)) {slot : Slot}
    (found : layout.slot? other = some slot) :
    (layout.attemptAll pushes).slot? other = some slot := by
  induction pushes generalizing layout with
  | nil => exact found
  | cons push rest ih => exact ih (slot?_attempt layout push.1 push.2 found)

/-! ## Agreement with the rules -/

/-- The slots of a layout, that of the viewport first. -/
def slots (layout : Layout) : List Slot := viewportSlot :: layout.fields.map Field.slot

theorem Pushed.slot?_field (made : layout.Pushed) :
    ∀ field ∈ layout.fields, layout.slot? field.name = some field.slot := by
  intro field present
  rw [slot?, made.field?_eq field present]
  rfl

/-- The slots are where the rules place the members. -/
theorem Pushed.placed (made : layout.Pushed) :
    Std140.Placed 0 (viewport :: layout.fields.map Field.member) (layout.slots.map Slot.place)
      layout.cursor := by
  induction made with
  | empty =>
      have first : IsLeast {place | 0 ≤ place ∧ Std140.alignment viewport.type ∣ place} 0 :=
        ⟨⟨Nat.le_refl 0, Nat.dvd_zero _⟩, fun place _ => Nat.zero_le place⟩
      exact .cons first .nil
  | @push layout after name type made pushed ih =>
      rcases push_cases pushed with ⟨_, _, _, rfl⟩ | ⟨absent, _⟩
      · exact ih
      · have least := isLeast_nextMultiple layout.cursor type.size_pos
        rw [push_of_absent absent] at pushed
        cases pushed
        rw [← alignment_storage] at least
        have longer := ih.concat ⟨type.storage, memberName name⟩ least
        rw [extent_storage, alignment_storage] at longer
        simpa [slots, Field.member, Slot.place, Slot.stop] using longer

/-- No two slots share a byte. -/
theorem Pushed.pairwise_apart (made : layout.Pushed) : layout.slots.Pairwise Slot.Apart := by
  induction made with
  | empty => exact List.pairwise_singleton _ _
  | @push layout after name type made pushed ih =>
      rcases push_cases pushed with ⟨_, _, _, rfl⟩ | ⟨_, offset, above, appended, _⟩
      · exact ih
      · have longer : after.slots = layout.slots ++ [⟨offset, type⟩] := by
          simp [slots, appended]
        rw [longer, List.pairwise_append]
        refine ⟨ih, List.pairwise_singleton _ _, ?_⟩
        intro first member last single
        rw [List.mem_singleton.mp single]
        -- whatever was there before ends where the new one may begin
        have ends : first.stop ≤ layout.cursor := by
          rcases List.mem_cons.mp member with rfl | inside
          · exact made.viewport_le_cursor
          · obtain ⟨field, present, rfl⟩ := List.mem_map.mp inside
            exact (made.inside (made.slot?_field field present)).2
        exact Or.inl (Nat.le_trans ends above)

theorem Pushed.stop_le_size_of_mem (made : layout.Pushed) :
    ∀ slot ∈ layout.slots, slot.stop ≤ layout.size := by
  intro slot member
  rcases List.mem_cons.mp member with rfl | inside
  · exact Nat.le_trans made.viewport_le_cursor (Number.le_nextMultiple _ (by decide))
  · obtain ⟨field, present, rfl⟩ := List.mem_map.mp inside
    exact made.stop_le_size (made.slot?_field field present)

theorem attempt_of_slot? {slot : Slot} (found : layout.slot? name = some slot) :
    layout.attempt name type = layout := by
  rw [attempt, push_of_slot? found]
  split
  · rename_i equal
    split at equal
    · cases equal
      rfl
    · cases equal
  · rfl

theorem push_eq_error_iff {fault : Redeclaration} :
    layout.push name type = .error fault ↔
      ∃ slot, layout.slot? name = some slot ∧ slot.type ≠ type ∧
        fault = ⟨name, type, slot.type⟩ := by
  constructor
  · intro refused
    cases present : layout.field? name with
    | none =>
        rw [push_of_absent present] at refused
        cases refused
    | some field =>
        have found : layout.slot? name = some field.slot := by rw [slot?, present]; rfl
        rw [push_of_slot? found] at refused
        split at refused
        · cases refused
        · rename_i differ
          cases refused
          exact ⟨field.slot, found, differ, rfl⟩
  · rintro ⟨slot, found, differ, rfl⟩
    rw [push_of_slot? found, if_neg differ]

/-- A layout that the printed declaration and the rules of the standard lead to as well. -/
structure FollowsStd140 (layout : Layout) : Prop where
  declared : declaredMembers? layout.declaration =
    some (viewport :: layout.fields.map Field.member)
  placed : ∀ places stop,
    Std140.Placed 0 (viewport :: layout.fields.map Field.member) places stop ↔
      places = layout.slots.map Slot.place ∧ stop = layout.cursor
  named : ∀ field ∈ layout.fields, layout.slot? field.name = some field.slot
  apart : layout.slots.Pairwise Slot.Apart
  inside : ∀ slot ∈ layout.slots, slot.stop ≤ layout.size
  size : IsLeast {total | layout.cursor ≤ total ∧ 16 ∣ total} layout.size

/--
A push that is accepted gives its name a slot of its type.  Pushing changes a layout by new
names only, and no slot moves.
-/
structure Steady (layout : Layout) : Prop where
  accepted : ∀ name type after, layout.push name type = .ok after →
    ∃ offset, after.slot? name = some ⟨offset, type⟩
  refused : ∀ name type fault, layout.push name type = .error fault ↔
    ∃ slot, layout.slot? name = some slot ∧ slot.type ≠ type ∧ fault = ⟨name, type, slot.type⟩
  known : ∀ name type slot, layout.slot? name = some slot → layout.attempt name type = layout
  kept : ∀ later name slot, layout.slot? name = some slot →
    (layout.attemptAll later).slot? name = some slot

theorem Pushed.followsStd140 (made : layout.Pushed) : layout.FollowsStd140 := by
  constructor
  · exact declaredMembers?_declaration layout
  · intro places stop
    constructor
    · exact made.placed.unique
    · rintro ⟨rfl, rfl⟩
      exact made.placed
  · exact made.slot?_field
  · exact made.pairwise_apart
  · exact made.stop_le_size_of_mem
  · exact isLeast_nextMultiple _ (by decide)

theorem steady (layout : Layout) : layout.Steady := by
  constructor
  · exact fun name type after pushed => slot?_push pushed
  · exact fun name type fault => push_eq_error_iff
  · exact fun name type slot found => attempt_of_slot? found
  · exact fun later name slot found => slot?_attemptAll later found

/--
After any pushes, refused ones among them, the slots are where the rules of the standard
layout place the members of the printed declaration.
-/
theorem follows_std140 (pushes : List (String × DataType)) :
    (empty.attemptAll pushes).FollowsStd140 ∧ (empty.attemptAll pushes).Steady :=
  ⟨(Pushed.empty.attemptAll pushes).followsStd140, steady _⟩

/-- Gaps before a pair and a longer vector, a repeated push and a refused one. -/
def mixedPushes : List (String × DataType) :=
  [("a", .float), ("b", .vec2), ("a", .float), ("c", .bool), ("b", .int), ("d", .vec3)]

theorem follows_std140_mixedPushes :
    (empty.attemptAll mixedPushes).FollowsStd140 ∧
      (empty.attemptAll mixedPushes).slots.map Slot.place =
        [(0, 8), (8, 12), (16, 24), (24, 28), (32, 48)] :=
  ⟨(follows_std140 mixedPushes).1, by decide⟩

end Layout

end LiveShader.Uniform

namespace LiveShader.Source.Scan

open LiveShader.Uniform

/-- A scan pushes one name after the other and goes on where a push is refused. -/
theorem layout_addUniform (scan : Scan) (type : DataType) (name : String) :
    (scan.addUniform type name).layout = scan.layout.attempt name type := by
  rw [addUniform, Layout.attempt]
  cases scan.layout.push name type with
  | ok after => rfl
  | error fault => rfl

end LiveShader.Source.Scan
