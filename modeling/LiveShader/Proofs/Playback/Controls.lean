import LiveShader.Proofs.Control.Values
import LiveShader.Proofs.Playback.Change

/-!
# The values that controls settle on

A change gives a value to at most one control, and only one that this control accepts.
After any changes a control has the value that it was given last, or still its default.
-/

namespace LiveShader.Playback

open LiveShader.Control

/-- The value that a change gives to a control, if the control accepts it. -/
def Change.gives? (spec : Spec) : Change → Option Control.Value
  | .setControl name value => if name = spec.name then (spec.accept value).toOption else none
  | .setControlText name raw => if name = spec.name then (spec.parse raw).toOption else none
  | _ => none

end LiveShader.Playback

namespace LiveShader.Control

open LiveShader.Playback

/-- The value of a control after some changes: the last one it was given, or its default. -/
def Spec.settled (spec : Spec) (changes : List Change) : Value :=
  (changes.filterMap (Change.gives? spec)).getLast?.getD spec.default

theorem eq_ok_of_toOption {ε α : Type} {result : Except ε α} {value : α}
    (given : result.toOption = some value) : result = .ok value := by
  cases result with
  | error refusal => cases given
  | ok accepted =>
      cases given
      rfl

theorem Spec.settled_concat (spec : Spec) (changes : List Change) (change : Change) :
    spec.settled (changes ++ [change]) = (change.gives? spec).getD (spec.settled changes) := by
  rw [settled, settled, List.filterMap_append]
  cases given : change.gives? spec with
  | none => simp [given]
  | some value => simp [given]

/-- A control settles on what a change gives to it, or on its default if none does. -/
theorem Spec.settled_cases (spec : Spec) (changes : List Change) :
    (spec.settled changes = spec.default ∧
        ∀ change ∈ changes, (change.gives? spec).isSome = false) ∨
      ∃ change ∈ changes, change.gives? spec = some (spec.settled changes) := by
  rw [settled]
  cases last : (changes.filterMap (Change.gives? spec)).getLast? with
  | none =>
      refine Or.inl ⟨rfl, ?_⟩
      intro change member
      have silent := List.filterMap_eq_nil_iff.mp (List.getLast?_eq_none_iff.mp last)
      rw [silent change member]
      rfl
  | some value =>
      obtain ⟨change, member, given⟩ := List.mem_filterMap.mp (List.mem_of_getLast? last)
      exact Or.inr ⟨change, member, given⟩

/-- What a change gives to a control is something that the control accepts. -/
theorem Spec.accepts_of_gives? {spec : Spec} {change : Change} {value : Value}
    (given : change.gives? spec = some value) :
    (∃ offered, spec.accept offered = .ok value) ∨ ∃ raw, spec.parse raw = .ok value := by
  cases change with
  | setControl name offered =>
      rw [Change.gives?] at given
      split at given
      · exact Or.inl ⟨offered, eq_ok_of_toOption given⟩
      · cases given
  | setControlText name raw =>
      rw [Change.gives?] at given
      split at given
      · exact Or.inr ⟨raw, eq_ok_of_toOption given⟩
      · cases given
  | _ => cases given

/-- Whatever a control settles on can be uploaded. -/
theorem Spec.Made.upload?_settled {spec : Spec} (made : spec.Made) (changes : List Change) :
    ∃ shape, Values.upload? (spec.settled changes) = some shape := by
  rcases spec.settled_cases changes with ⟨same, _⟩ | ⟨change, _, given⟩
  · rw [same]
    exact made.upload?_default
  · rcases accepts_of_gives? given with ⟨offered, accepts⟩ | ⟨raw, accepts⟩
    · exact upload?_of_accept accepts
    · exact upload?_of_parse accepts

/-- The values of some installed controls after some changes. -/
structure Values.Settled (controls : Values) (specs : List Spec) (changes : List Change) :
    Prop where
  installed : controls.specs = specs
  values : ∀ spec ∈ specs, controls.get? spec.name = some (spec.settled changes)

namespace Values

variable {controls : Values} {specs : List Spec} {changes : List Change}

/-- Every control starts at its default. -/
theorem settled_ofSpecs (distinct : (specs.map Spec.name).Nodup) :
    (ofSpecs specs).Settled specs [] :=
  ⟨rfl, fun _ member => get?_ofSpecs distinct member⟩

theorem Settled.updated (settled : controls.Settled specs changes)
    (distinct : (specs.map Spec.name).Nodup) {name : String}
    {accept : Spec → Except Error Value} {change : Change}
    (given : ∀ spec, change.gives? spec =
      if name = spec.name then (accept spec).toOption else none) :
    (controls.updated name accept).Settled specs (changes ++ [change]) := by
  rcases settled with ⟨rfl, values⟩
  refine ⟨updated_specs, ?_⟩
  intro spec member
  rw [get?_updated distinct member, values spec member, ← given, Spec.settled_concat]
  cases change.gives? spec <;> rfl

theorem Settled.unchanged (settled : controls.Settled specs changes) {change : Change}
    (silent : ∀ spec, change.gives? spec = none) :
    controls.Settled specs (changes ++ [change]) := by
  refine ⟨settled.installed, ?_⟩
  intro spec member
  rw [Spec.settled_concat, silent]
  exact settled.values spec member

end Values

end LiveShader.Control

namespace LiveShader.Playback

open LiveShader.Control

theorem Inputs.controls_getD {inputs : Inputs} {result : Except Error Values} :
    ((result.map inputs.withControls).toOption.getD inputs).controls =
      result.toOption.getD inputs.controls := by
  cases result <;> rfl

theorem Inputs.controls_setPaused (inputs : Inputs) (paused : Bool) :
    (inputs.setPaused paused).controls = inputs.controls := by
  rw [setPaused]
  split <;> rfl

/-- Every change of the inputs gives the controls what it says. -/
theorem Change.settled_apply {inputs : Inputs} {specs : List Spec} {changes : List Change}
    (settled : inputs.controls.Settled specs changes) (distinct : (specs.map Spec.name).Nodup)
    (change : Change) : (change.apply inputs).controls.Settled specs (changes ++ [change]) := by
  cases change with
  | setControl name value =>
      rw [Change.apply, Inputs.setControl, Inputs.controls_getD]
      exact settled.updated distinct fun spec => rfl
  | setControlText name raw =>
      rw [Change.apply, Inputs.setControlText, Inputs.controls_getD]
      exact settled.updated distinct fun spec => rfl
  | setPaused paused =>
      rw [Change.apply, Inputs.controls_setPaused]
      exact settled.unchanged fun _ => rfl
  | togglePaused =>
      rw [Change.apply, Inputs.togglePaused, Inputs.controls_setPaused]
      exact settled.unchanged fun _ => rfl
  | _ => exact settled.unchanged fun _ => rfl

end LiveShader.Playback
