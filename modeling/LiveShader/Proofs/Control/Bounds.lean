import LiveShader.Proofs.Number.Order
import LiveShader.Proofs.Playback.Controls

/-!
# Values within their declarations

What a control accepts is of its kind and between its bounds, and so is every default but
one: a number without a value passes the bounds of its constructor.  So whatever is set and
installed, a value is within its declaration exactly if its default is a number, or
something was accepted for it since it was installed.
-/

namespace LiveShader.Control

open LiveShader.Playback

/-! ## Kinds -/

/-- The kind of a value. -/
def Value.kindName : Value → KindName
  | .bool _ => .bool
  | .int _ => .int
  | .float _ => .float
  | .color _ => .color

/-- The values that a kind of control may have; a number between two bounds has a value. -/
def Kind.Holds : Kind → Value → Prop
  | .bool, .bool _ => True
  | .int low high, .int value => low ≤ value ∧ value ≤ high
  | .float low high, .float value => low ≤ value ∧ value ≤ high
  | .color, .color text => (Color.parse? text).isSome = true
  | _, _ => False

/-- The shapes in which the values of a kind are uploaded. -/
def Kind.Uploads : Kind → Uniform.Value → Prop
  | .bool, .int value => value = 0 ∨ value = 1
  | .int low high, .int value => low ≤ value ∧ value ≤ high
  | .float .., .float _ => True
  | .color, .vec3 .. => True
  | _, _ => False

theorem Kind.Holds.kindName_eq {kind : Kind} {value : Value} (holds : kind.Holds value) :
    value.kindName = kind.name := by
  cases kind <;> cases value <;> first | rfl | exact holds.elim

/-- What a control may have can be uploaded in the shape of its kind. -/
theorem Kind.Holds.exists_upload {kind : Kind} {value : Value} (holds : kind.Holds value) :
    ∃ shape, Values.upload? value = some shape ∧ kind.Uploads shape := by
  cases kind <;> cases value <;> try exact holds.elim
  case bool.bool value => cases value <;> exact ⟨_, rfl, by simp [Uploads]⟩
  case int.int => exact ⟨_, rfl, holds⟩
  case float.float => exact ⟨_, rfl, trivial⟩
  case color.color text =>
    obtain ⟨color, parsed⟩ := Option.isSome_iff_exists.mp holds
    have uploaded : Values.upload? (.color text) =
        some (.vec3 color.channels.1 color.channels.2.1 color.channels.2.2) := by
      rw [Values.upload?, parsed]
      rfl
    exact ⟨_, uploaded, trivial⟩

/-! ## Bounds -/

theorem between_clampInt {value low high : Int} (ordered : low ≤ high) :
    low ≤ Number.clampInt value low high ∧ Number.clampInt value low high ≤ high := by
  rw [Number.clampInt]
  omega

/-- What the constructors see to: bounds are not inverted. -/
def Kind.Ordered : Kind → Prop
  | .int low high => low ≤ high
  | .float low high => low ≤ high
  | _ => True

theorem Spec.Made.ordered {spec : Spec} (made : spec.Made) : spec.kind.Ordered := by
  cases made with
  | bool name default => trivial
  | int made =>
      obtain ⟨ordered, rfl⟩ := ofInt_made made
      exact ordered
  | float made =>
      obtain ⟨ordered, rfl⟩ := ofFloat_made made
      exact ordered
  | color made =>
      obtain ⟨_, rfl⟩ := ofColor_made made
      trivial

/-- What a control accepts is of its kind and between its bounds. -/
theorem Spec.holds_of_accept {spec : Spec} (ordered : spec.kind.Ordered) {value accepted : Value}
    (accepts : spec.accept value = .ok accepted) : spec.kind.Holds accepted := by
  unfold accept at accepts
  split at accepts
  case h_1 kind =>
    cases accepts
    rw [kind]
    trivial
  case h_2 kind =>
    cases accepts
    rw [kind] at ordered ⊢
    exact between_clampInt ordered
  case h_3 kind =>
    split at accepts
    · cases accepts
      rw [kind] at ordered ⊢
      exact between_clampInt ordered
    · cases accepts
  case h_4 kind =>
    split at accepts
    · rename_i finite
      cases accepts
      rw [kind] at ordered ⊢
      exact Number.Single.between_clampSingle ordered (Number.Single.isNumber_of_isFinite finite)
    · cases accepts
  case h_5 kind =>
    cases accepts
    rw [kind] at ordered ⊢
    exact Number.Single.between_clampSingle ordered (Number.Single.isNumber_singleOfInt _)
  case h_6 kind =>
    split at accepts
    · rename_i color parsed
      cases accepts
      rw [kind]
      exact Option.isSome_of_eq_some parsed
    · cases accepts
  case h_7 => cases accepts

theorem Spec.holds_of_parse {spec : Spec} (ordered : spec.kind.Ordered) {raw : String}
    {accepted : Value} (accepts : spec.parse raw = .ok accepted) : spec.kind.Holds accepted := by
  rw [parse] at accepts
  split at accepts
  · exact holds_of_accept ordered accepts
  · cases accepts

/-- Whether the default of a control, if it is a number, has a value. -/
def Spec.HasNumber (spec : Spec) : Prop :=
  ∀ value, spec.default = .float value → value.isNumber = true

/-- The default of a control is of its kind. -/
theorem Spec.Made.kindName_default {spec : Spec} (made : spec.Made) :
    spec.default.kindName = spec.kind.name := by
  cases made with
  | bool name default => rfl
  | int made =>
      obtain ⟨_, rfl⟩ := ofInt_made made
      rfl
  | float made =>
      obtain ⟨_, rfl⟩ := ofFloat_made made
      rfl
  | color made =>
      obtain ⟨_, rfl⟩ := ofColor_made made
      rfl

/-- A default is within its declaration unless it is a number without a value. -/
theorem Spec.Made.holds_default_iff {spec : Spec} (made : spec.Made) :
    spec.kind.Holds spec.default ↔ spec.HasNumber := by
  cases made with
  | bool name default => exact iff_of_true trivial (by rintro value ⟨⟩)
  | int made =>
      obtain ⟨ordered, rfl⟩ := ofInt_made made
      exact iff_of_true (between_clampInt ordered) (by rintro value ⟨⟩)
  | @float name low high default spec made =>
      obtain ⟨ordered, rfl⟩ := ofFloat_made made
      constructor
      · rintro ⟨above, _⟩ value ⟨⟩
        exact (Number.Single.isNumber_of_le above).2
      · intro number
        cases known : default.isNumber with
        | true => exact Number.Single.between_clampSingle ordered known
        | false =>
            have kept := number _ rfl
            rw [Number.Single.clampSingle_of_not_isNumber low high known, known] at kept
            cases kept
  | color made =>
      obtain ⟨⟨color, parsed⟩, rfl⟩ := ofColor_made made
      exact iff_of_true (Option.isSome_of_eq_some parsed) (by rintro value ⟨⟩)

/-- The default of a control is uploaded in the shape of its kind. -/
theorem Spec.Made.exists_upload_default {spec : Spec} (made : spec.Made) :
    ∃ shape, Values.upload? spec.default = some shape ∧ spec.kind.Uploads shape := by
  by_cases holds : spec.kind.Holds spec.default
  · exact holds.exists_upload
  · cases made with
    | float made =>
        obtain ⟨_, rfl⟩ := ofFloat_made made
        exact ⟨_, rfl, trivial⟩
    | bool name default => exact absurd trivial holds
    | int made =>
        obtain ⟨ordered, rfl⟩ := ofInt_made made
        exact absurd (between_clampInt ordered) holds
    | color made =>
        obtain ⟨⟨color, parsed⟩, rfl⟩ := ofColor_made made
        exact absurd (Option.isSome_of_eq_some parsed) holds

/-- What a change gives to a control is within its declaration. -/
theorem Spec.Made.holds_of_gives? {spec : Spec} (made : spec.Made) {change : Change}
    {value : Value} (given : change.gives? spec = some value) : spec.kind.Holds value := by
  rcases accepts_of_gives? given with ⟨offered, accepts⟩ | ⟨raw, accepts⟩
  · exact holds_of_accept made.ordered accepts
  · exact holds_of_parse made.ordered accepts

/--
What a control settles on is of its kind, and within its declaration exactly if anything
was given to it or its default is a number.
-/
theorem Spec.Made.settled_within {spec : Spec} (made : spec.Made) (changes : List Change) :
    (spec.settled changes).kindName = spec.kind.name ∧
      (spec.kind.Holds (spec.settled changes) ↔
        spec.HasNumber ∨ ∃ change ∈ changes, (change.gives? spec).isSome = true) ∧
      ∃ shape, Values.upload? (spec.settled changes) = some shape ∧ spec.kind.Uploads shape := by
  rcases spec.settled_cases changes with ⟨same, silent⟩ | ⟨change, member, given⟩
  · have none : ¬ ∃ change ∈ changes, (change.gives? spec).isSome = true := by
      rintro ⟨change, member, given⟩
      exact Bool.false_ne_true ((silent change member).symm.trans given)
    rw [same, or_iff_left none]
    exact ⟨made.kindName_default, made.holds_default_iff, made.exists_upload_default⟩
  · have holds := made.holds_of_gives? given
    refine ⟨holds.kindName_eq, iff_of_true holds (Or.inr ⟨change, member, ?_⟩), ?_⟩
    · exact Option.isSome_of_eq_some given
    · exact holds.exists_upload

/-! ## Runs -/

/-- Something done to the controls. -/
inductive Operation where
  | set (name : String) (value : Value)
  | setText (name raw : String)
  | install (specs : List Spec)

namespace Operation

/-- The values that an operation makes, unless it is refused. -/
def result (controls : Values) : Operation → Except Error Values
  | set name value => controls.set name value
  | setText name raw => controls.setText name raw
  | install specs => .ok (.ofSpecs specs)

/-- The values after an operation. -/
def apply (controls : Values) (operation : Operation) : Values :=
  (operation.result controls).toOption.getD controls

/-- Whether an operation installs declared controls, if it installs any. -/
def Declares : Operation → Prop
  | install specs => Spec.Declared specs
  | _ => True

end Operation

/-- The controls that were installed last, and what was set since. -/
structure History where
  specs : List Spec
  settings : List Change

/-- The history after an operation. -/
def History.after (history : History) : Operation → History
  | .set name value => ⟨history.specs, history.settings ++ [.setControl name value]⟩
  | .setText name raw => ⟨history.specs, history.settings ++ [.setControlText name raw]⟩
  | .install specs => ⟨specs, []⟩

/-- The values after some controls were installed and some operations were done. -/
def Values.run (specs : List Spec) (operations : List Operation) : Values :=
  operations.foldl Operation.apply (.ofSpecs specs)

/-- The history of the same run. -/
def History.run (specs : List Spec) (operations : List Operation) : History :=
  operations.foldl History.after ⟨specs, []⟩

namespace Values

variable {controls : Values} {history : History} {specs : List Spec} {name : String}
  {accept : Spec → Except Error Value}

/-- No value stands under a name that is not declared. -/
def Confined (controls : Values) : Prop :=
  ∀ name, name ∉ controls.specs.map Spec.name → controls.get? name = none

theorem confined_ofSpecs (specs : List Spec) : (ofSpecs specs).Confined :=
  fun _ absent => lookup_defaults specs absent []

theorem Confined.updated (confined : controls.Confined) :
    (controls.updated name accept).Confined := by
  intro other absent
  rw [updated_specs] at absent
  have none := confined other absent
  rw [Values.updated, update]
  split
  · exact none
  · rename_i spec found
    have differ : name ≠ other := by
      rintro rfl
      have named : spec.name = name := by simpa using List.find?_some found
      exact absent (named ▸ List.mem_map_of_mem (List.mem_of_find?_eq_some found))
    split
    · exact (lookup_insert_of_ne differ _ controls.values).trans none
    · exact none

/-- Declared controls with the values that their history gives them, and no others. -/
structure Follows (controls : Values) (history : History) : Prop where
  declared : Spec.Declared history.specs
  settled : controls.Settled history.specs history.settings
  confined : controls.Confined

theorem follows_ofSpecs (declared : Spec.Declared specs) :
    (ofSpecs specs).Follows ⟨specs, []⟩ :=
  ⟨declared, settled_ofSpecs declared.distinct, confined_ofSpecs specs⟩

/-- What one operation does to the values it does to their history. -/
theorem Follows.apply (follows : controls.Follows history) {operation : Operation}
    (declares : operation.Declares) :
    (operation.apply controls).Follows (history.after operation) := by
  cases operation with
  | set name value =>
      exact ⟨follows.declared, follows.settled.updated follows.declared.distinct fun _ => rfl,
        follows.confined.updated⟩
  | setText name raw =>
      exact ⟨follows.declared, follows.settled.updated follows.declared.distinct fun _ => rfl,
        follows.confined.updated⟩
  | install specs => exact follows_ofSpecs declares

theorem Follows.foldl (follows : controls.Follows history) {operations : List Operation}
    (declares : ∀ operation ∈ operations, operation.Declares) :
    (operations.foldl Operation.apply controls).Follows
      (operations.foldl History.after history) := by
  induction operations generalizing controls history with
  | nil => exact follows
  | cons operation rest ih =>
      exact ih (follows.apply (declares operation List.mem_cons_self))
        fun later member => declares later (List.mem_cons_of_mem operation member)

theorem Follows.get?_isSome_iff (follows : controls.Follows history) (name : String) :
    (controls.get? name).isSome = true ↔ name ∈ history.specs.map Spec.name := by
  constructor
  · intro present
    refine Decidable.byContradiction fun absent => ?_
    rw [← follows.settled.installed] at absent
    rw [follows.confined name absent] at present
    cases present
  · intro member
    obtain ⟨spec, declared, rfl⟩ := List.mem_map.mp member
    rw [follows.settled.values spec declared]
    rfl

end Values

/--
Values and their declarations, whatever is set and installed.  There is a value under each
declared name and under no other, it is of its kind, and it can be uploaded in the shape of
its kind.  It is within its declaration (between the bounds, a number, a colour that can be
read) exactly if the default is a number or anything was accepted for the control since it
was installed.  What is refused changes nothing.
-/
theorem values_within_iff {specs : List Spec} (declared : Spec.Declared specs)
    {operations : List Operation} (declares : ∀ operation ∈ operations, operation.Declares) :
    (Values.run specs operations).specs = (History.run specs operations).specs ∧
      (∀ name, ((Values.run specs operations).get? name).isSome = true ↔
        name ∈ (History.run specs operations).specs.map Spec.name) ∧
      (∀ spec ∈ (History.run specs operations).specs, ∃ value,
        (Values.run specs operations).get? spec.name = some value ∧
          value.kindName = spec.kind.name ∧
          (spec.kind.Holds value ↔ spec.HasNumber ∨
            ∃ change ∈ (History.run specs operations).settings,
              (change.gives? spec).isSome = true) ∧
          ∃ shape, (Values.run specs operations).uniform? spec.name = some shape ∧
            spec.kind.Uploads shape) ∧
      ∀ (operation : Operation) (refusal : Error),
        operation.result (Values.run specs operations) = .error refusal →
          operation.apply (Values.run specs operations) = Values.run specs operations := by
  have follows : (Values.run specs operations).Follows (History.run specs operations) :=
    (Values.follows_ofSpecs declared).foldl declares
  refine ⟨follows.settled.installed, follows.get?_isSome_iff, ?_, ?_⟩
  · intro spec member
    have value := follows.settled.values spec member
    obtain ⟨kind, within, uploaded⟩ :=
      (follows.declared.made spec member).settled_within (History.run specs operations).settings
    refine ⟨_, value, kind, within, ?_⟩
    rw [Values.uniform?, value, Option.bind_some]
    exact uploaded
  · intro operation refusal refused
    rw [Operation.apply, refused]
    rfl

/-- A number without a value: the default of a control that has not got one. -/
def unvalued : Number.Single := ⟨0x7fc00000⟩

/-- A control whose default passes the bounds of its constructor without being between them. -/
def unvaluedSpec : Spec :=
  ⟨"gain", .float (Number.singleOfInt 0) (Number.singleOfInt 1), .float unvalued⟩

theorem ofFloat_unvalued :
    Spec.ofFloat "gain" (Number.singleOfInt 0) (Number.singleOfInt 1) unvalued =
      .ok unvaluedSpec := by
  have ordered : Number.singleOfInt 0 ≤ Number.singleOfInt 1 := by decide +kernel
  rw [Spec.ofFloat, if_pos ordered, Number.Single.clampSingle_of_not_isNumber _ _ (by decide)]
  rfl

/-- A constructor lets a default through that is no number, and so the value is none. -/
theorem unvalued_default_kept :
    Spec.ofFloat "gain" (Number.singleOfInt 0) (Number.singleOfInt 1) unvalued =
        .ok unvaluedSpec ∧
      (Values.ofSpecs [unvaluedSpec]).get? "gain" = some (.float unvalued) ∧
        unvalued.isNumber = false ∧
          ¬ (Number.singleOfInt 0 ≤ unvalued ∧ unvalued ≤ Number.singleOfInt 1) :=
  ⟨ofFloat_unvalued, by decide +kernel, by decide +kernel, by decide +kernel⟩

/-- The control is within its declaration after text that is a number and text that is none. -/
theorem values_within_unvalued :
    ∃ value, (Values.run [unvaluedSpec] [.setText "gain" "7", .setText "gain" "loud"]).get?
        "gain" = some value ∧ unvaluedSpec.kind.Holds value := by
  have declared : Spec.Declared [unvaluedSpec] := by
    refine ⟨by decide, ?_⟩
    intro spec member
    rw [List.mem_singleton.mp member]
    exact .float ofFloat_unvalued
  have declares : ∀ operation ∈
      [Operation.setText "gain" "7", Operation.setText "gain" "loud"], operation.Declares := by
    simp [Operation.Declares]
  obtain ⟨_, _, values, _⟩ := values_within_iff declared declares
  obtain ⟨value, found, _, within, _⟩ := values unvaluedSpec (by decide +kernel)
  refine ⟨value, found, within.mpr (Or.inr ⟨.setControlText "gain" "7", ?_, ?_⟩)⟩
  · exact List.mem_cons_self
  · decide +kernel

end LiveShader.Control
