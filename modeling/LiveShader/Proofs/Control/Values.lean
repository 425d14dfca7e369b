import LiveShader.Control.Values

/-!
# Values under names

Installing controls with names of their own gives each of them its default.  A setting
changes the value of one control, to what that control makes of it, and a refused one
changes nothing.  Whatever a control accepts can be uploaded.
-/

namespace LiveShader.Control

/-! ## Specs -/

/-- Controls as the constructors make them. -/
inductive Spec.Made : Spec → Prop where
  | bool (name : String) (default : Bool) : Made (.ofBool name default)
  | int {name : String} {low high default : Int} {spec : Spec}
      (made : Spec.ofInt name low high default = .ok spec) : Made spec
  | float {name : String} {low high default : Number.Single} {spec : Spec}
      (made : Spec.ofFloat name low high default = .ok spec) : Made spec
  | color {name default : String} {spec : Spec}
      (made : Spec.ofColor name default = .ok spec) : Made spec

/-- Controls of a program: each one was made by a constructor, and has its own name. -/
structure Spec.Declared (specs : List Spec) : Prop where
  distinct : (specs.map Spec.name).Nodup
  made : ∀ spec ∈ specs, spec.Made

/-! ### What the constructors make -/

namespace Spec

variable {name : String} {spec : Spec}

theorem ofInt_made {low high default : Int} (made : ofInt name low high default = .ok spec) :
    low ≤ high ∧ spec = ⟨name, .int low high, .int (Number.clampInt default low high)⟩ := by
  rw [ofInt] at made
  split at made
  · cases made
  · rename_i notInverted
    cases made
    exact ⟨Int.not_lt.mp notInverted, rfl⟩

theorem ofFloat_made {low high default : Number.Single}
    (made : ofFloat name low high default = .ok spec) :
    low ≤ high ∧
      spec = ⟨name, .float low high, .float (Number.clampSingle default low high)⟩ := by
  rw [ofFloat] at made
  split at made
  · rename_i ordered
    cases made
    exact ⟨ordered, rfl⟩
  · cases made

theorem ofColor_made {default : String} (made : ofColor name default = .ok spec) :
    (∃ color, Color.parse? default = some color) ∧ spec = ⟨name, .color, .color default⟩ := by
  rw [ofColor] at made
  split at made
  · rename_i color parsed
    cases made
    exact ⟨⟨color, parsed⟩, rfl⟩
  · cases made

end Spec

/-- A colour that can be read can be uploaded. -/
theorem Values.upload?_color {text : String} {color : Color}
    (parsed : Color.parse? text = some color) : ∃ shape, upload? (.color text) = some shape := by
  rw [upload?, parsed]
  exact ⟨_, rfl⟩

/-- The default of a control can be uploaded. -/
theorem Spec.Made.upload?_default {spec : Spec} (made : spec.Made) :
    ∃ shape, Values.upload? spec.default = some shape := by
  cases made with
  | bool name default => exact ⟨_, rfl⟩
  | int made =>
      obtain ⟨_, rfl⟩ := ofInt_made made
      exact ⟨_, rfl⟩
  | float made =>
      obtain ⟨_, rfl⟩ := ofFloat_made made
      exact ⟨_, rfl⟩
  | color made =>
      obtain ⟨⟨color, parsed⟩, rfl⟩ := ofColor_made made
      exact Values.upload?_color parsed

/-- What a control accepts can be uploaded. -/
theorem Spec.upload?_of_accept {spec : Spec} {value accepted : Value}
    (accepts : spec.accept value = .ok accepted) :
    ∃ shape, Values.upload? accepted = some shape := by
  unfold accept at accepts
  split at accepts
  · cases accepts
    exact ⟨_, rfl⟩
  · cases accepts
    exact ⟨_, rfl⟩
  · split at accepts
    · cases accepts
      exact ⟨_, rfl⟩
    · cases accepts
  · split at accepts
    · cases accepts
      exact ⟨_, rfl⟩
    · cases accepts
  · cases accepts
    exact ⟨_, rfl⟩
  · split at accepts
    · rename_i color parsed
      cases accepts
      exact Values.upload?_color parsed
    · cases accepts
  · cases accepts

theorem Spec.upload?_of_parse {spec : Spec} {raw : String} {accepted : Value}
    (accepts : spec.parse raw = .ok accepted) :
    ∃ shape, Values.upload? accepted = some shape := by
  rw [parse] at accepts
  split at accepts
  · exact upload?_of_accept accepts
  · cases accepts

namespace Values

variable {name other : String} {value : Value} {table : List (String × Value)}

/-! ## Tables -/

theorem lookup_insert_self (name : String) (value : Value) (table : List (String × Value)) :
    lookup name (insert name value table) = some value := by
  induction table with
  | nil => simp [insert, lookup]
  | cons entry rest ih =>
      rcases entry with ⟨key, old⟩
      rw [insert]
      split
      · simp [lookup]
      · rename_i differs
        rw [lookup, if_neg differs, ih]

theorem lookup_insert_of_ne (differ : name ≠ other) (value : Value)
    (table : List (String × Value)) :
    lookup other (insert name value table) = lookup other table := by
  induction table with
  | nil => simp [insert, lookup, differ]
  | cons entry rest ih =>
      rcases entry with ⟨key, old⟩
      rw [insert]
      split
      · rename_i same
        rw [lookup, lookup, if_neg differ, if_neg fun equal => differ (same.symm.trans equal)]
      · rw [lookup, lookup, ih]

/-! ## Installing -/

/-- The defaults of other controls leave a value as it is. -/
theorem lookup_defaults (specs : List Spec) (absent : name ∉ specs.map Spec.name)
    (table : List (String × Value)) :
    lookup name (specs.foldl (fun values spec => insert spec.name spec.default values) table) =
      lookup name table := by
  induction specs generalizing table with
  | nil => rfl
  | cons first rest ih =>
      rw [List.map_cons, List.mem_cons, not_or] at absent
      rw [List.foldl_cons, ih absent.2, lookup_insert_of_ne (Ne.symm absent.1)]

/-- A control whose name is its own starts at its default. -/
theorem get?_ofSpecs {specs : List Spec} (distinct : (specs.map Spec.name).Nodup) {spec : Spec}
    (member : spec ∈ specs) : (ofSpecs specs).get? spec.name = some spec.default := by
  suffices general : ∀ table, lookup spec.name
      (specs.foldl (fun values spec => insert spec.name spec.default values) table) =
        some spec.default from general []
  induction specs with
  | nil => cases member
  | cons first rest ih =>
      intro table
      rw [List.map_cons, List.nodup_cons] at distinct
      rw [List.foldl_cons]
      rcases List.mem_cons.mp member with rfl | later
      · rw [lookup_defaults rest distinct.1, lookup_insert_self]
      · exact ih distinct.2 later _

/-! ## Setting -/

/-- A control whose name is its own is found under it. -/
theorem spec?_eq {controls : Values} (distinct : (controls.specs.map Spec.name).Nodup)
    {spec : Spec} (member : spec ∈ controls.specs) : controls.spec? spec.name = some spec := by
  rw [spec?]
  generalize controls.specs = specs at distinct member
  induction specs with
  | nil => cases member
  | cons first rest ih =>
      rw [List.map_cons, List.nodup_cons] at distinct
      rcases List.mem_cons.mp member with rfl | later
      · exact List.find?_cons_of_pos (by simp)
      · have differ : first.name ≠ spec.name := by
          intro same
          exact distinct.1 (same ▸ List.mem_map_of_mem later)
        rw [List.find?_cons_of_neg (by simpa using differ)]
        exact ih distinct.2 later

/-- The values after a setting, which may have been refused. -/
def updated (controls : Values) (name : String) (accept : Spec → Except Error Value) : Values :=
  (controls.update name accept).toOption.getD controls

variable {controls : Values} {accept : Spec → Except Error Value}

theorem updated_specs : (controls.updated name accept).specs = controls.specs := by
  rw [updated, update]
  split
  · rfl
  · split <;> rfl

/-- A setting gives a control what it accepts under its own name, and nothing else. -/
theorem get?_updated (distinct : (controls.specs.map Spec.name).Nodup) {spec : Spec}
    (member : spec ∈ controls.specs) :
    (controls.updated name accept).get? spec.name =
      (if name = spec.name then (accept spec).toOption else none).or
        (controls.get? spec.name) := by
  by_cases same : name = spec.name
  · subst same
    rw [if_pos rfl, updated, update, spec?_eq distinct member]
    dsimp only
    cases accept spec with
    | error refusal => rfl
    | ok value => exact lookup_insert_self spec.name value controls.values
  · rw [if_neg same, Option.none_or, updated, update]
    split
    · rfl
    · split
      · exact lookup_insert_of_ne same _ controls.values
      · rfl

end Values

end LiveShader.Control
