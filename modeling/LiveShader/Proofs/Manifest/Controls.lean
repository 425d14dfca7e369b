import LiveShader.Proofs.Console.Turn
import LiveShader.Proofs.Control.Color
import LiveShader.Proofs.Manifest.Declaration
import LiveShader.Proofs.Number.Value

/-!
# The controls of a manifest without faults

A declaration without faults yields a control.  The bounds and the default of an integer
are whole, so they are cut to the integers that they stand for; those of a number are
narrowed, which keeps their order; a text of the form of a colour is one.  So a fragment
that could be loaded can always be shown.
-/

namespace LiveShader.Manifest

open LiveShader.Control LiveShader.Number

/-! ## Written numbers -/

/-- The integer that a written number stands for. -/
def Written.IsInt : Written → Int → Prop
  | .int written, value => value = written
  | .float number, value => number.value? = some (value : ℚ)
  | _, _ => False

/-- An integer whose number has a 32-bit value is this value. -/
theorem eq_of_value?_doubleOfInt {integer value : Int}
    (valued : (doubleOfInt integer).value? = some (value : ℚ)) (above : minInt32 ≤ value)
    (below : value ≤ maxInt32) : value = integer := by
  have bounds : -2147483648 ≤ value ∧ value ≤ 2147483647 := ⟨above, below⟩
  -- Past the 32-bit integers the next one is still written exactly.
  have inside : -2147483649 < integer ∧ integer < 2147483648 := by
    constructor
    · refine Int.not_le.mp fun low => ?_
      have less := Double.value_le (doubleOfInt_mono low) valued (value?_doubleOfInt (by decide))
      rw [Int.cast_le] at less
      omega
    · refine Int.not_le.mp fun high => ?_
      have less := Double.value_le (doubleOfInt_mono high) (value?_doubleOfInt (by decide)) valued
      rw [Int.cast_le] at less
      omega
  rw [value?_doubleOfInt (by omega), Option.some.injEq, Int.cast_inj] at valued
  exact valued.symm

/-- A written number with a 32-bit value stands for this integer. -/
theorem Written.isInt_of_number? {written : Written} {number : Double}
    (stands : written.number? = some number) {value : Int}
    (valued : number.value? = some (value : ℚ)) (above : minInt32 ≤ value)
    (below : value ≤ maxInt32) : written.IsInt value := by
  cases written with
  | bool on => cases stands
  | text text => cases stands
  | float other =>
      cases stands
      exact valued
  | int integer =>
      cases stands
      exact eq_of_value?_doubleOfInt valued above below

/-! ## What a declaration stands for -/

namespace Declaration

variable {declaration : Declaration} {declarations : List Declaration} {spec : Spec}

/-- A switch is on exactly if its default is written so. -/
def IsSwitch (declaration : Declaration) (default : Bool) : Prop :=
  declaration.default = some (.bool default) ∨ declaration.default = none ∧ default = false

/-- The integers that the bounds and the default stand for; the lower bound if none is written. -/
structure IsInt (declaration : Declaration) (low high default : Int) : Prop where
  lowest : ∃ number, declaration.low = some number ∧ number.value? = some (low : ℚ)
  highest : ∃ number, declaration.high = some number ∧ number.value? = some (high : ℚ)
  initial : (∃ written, declaration.default = some written ∧ written.IsInt default) ∨
    declaration.default = none ∧ default = low

/-- The numbers that the bounds and the default are narrowed to. -/
structure IsFloat (declaration : Declaration) (low high default : Single) : Prop where
  lowest : ∃ number, declaration.low = some number ∧ low = singleOfDouble number
  highest : ∃ number, declaration.high = some number ∧ high = singleOfDouble number
  initial : (∃ written number, declaration.default = some written ∧
      written.number? = some number ∧ default = singleOfDouble number) ∨
    declaration.default = none ∧ default = low

/-- A colour is the text that is written, or black. -/
def IsColor (declaration : Declaration) (default : String) : Prop :=
  declaration.default = some (.text default) ∨
    declaration.default = none ∧ default = "#000000"

/-- The kind and the default of the control that a declaration stands for. -/
inductive Yields (declaration : Declaration) : Kind → Value → Prop where
  | bool {default : Bool} (kind : declaration.kind = .bool)
      (is : declaration.IsSwitch default) : Yields declaration .bool (.bool default)
  | int {low high default : Int} (kind : declaration.kind = .int)
      (is : declaration.IsInt low high default) :
      Yields declaration (.int low high) (.int default)
  | float {low high default : Single} (kind : declaration.kind = .float)
      (is : declaration.IsFloat low high default) :
      Yields declaration (.float low high) (.float default)
  | color {default : String} (kind : declaration.kind = .color)
      (is : declaration.IsColor default) : Yields declaration .color (.color default)

/-- The control that a declaration stands for, under its name and of its kind. -/
structure Declares (declaration : Declaration) (spec : Spec) : Prop where
  name : spec.name = declaration.name
  kind : spec.kind.name = declaration.kind
  yields : declaration.Yields spec.kind spec.default

/-! ## Declarations without faults -/

/-- A number that is a 32-bit integer is cut to it. -/
theorem exists_int_of_isInt32 {number : Double} (int32 : isInt32 number = true) :
    ∃ value : Int, number.value? = some (value : ℚ) ∧ toInt32 number = value ∧
      minInt32 ≤ value ∧ value ≤ maxInt32 := by
  rw [isInt32, Bool.and_eq_true, Bool.and_eq_true, decide_eq_true_eq, decide_eq_true_eq]
    at int32
  obtain ⟨⟨integral, above⟩, below⟩ := int32
  obtain ⟨value, valued, cut⟩ := Decoded.exists_int_of_isIntegral integral
  have low := Double.value_le above (value?_doubleOfInt (by decide)) valued
  have high := Double.value_le below valued (value?_doubleOfInt (by decide))
  rw [Int.cast_le] at low high
  refine ⟨value, valued, ?_, low, high⟩
  rw [toInt32, cut]
  omega

/-- The bounds and the default of a numeric declaration without faults. -/
structure Numeric (declaration : Declaration) (low high number : Double) : Prop where
  lowest : declaration.low = some low
  highest : declaration.high = some high
  initial : declaration.defaultNumber? = some number
  ordered : low ≤ high
  notBelow : ¬ number < low
  notAbove : ¬ high < number
  whole : declaration.kind = .int →
    isInt32 low = true ∧ isInt32 high = true ∧ isWhole number = true

theorem exists_numeric (faultless : declaration.numericIssues = []) :
    ∃ low high number, declaration.Numeric low high number := by
  rw [numericIssues] at faultless
  split at faultless
  · cases faultless
  rename_i low high bounds
  split at faultless
  · rename_i ordered
    obtain ⟨integral, others⟩ := List.append_eq_nil_iff.mp faultless
    rw [defaultIssues] at others
    split at others
    · cases others
    rename_i number default
    split at others
    · cases others
    rename_i inside
    rw [Bool.or_eq_true, decide_eq_true_eq, decide_eq_true_eq, not_or] at inside
    have given : declaration.low = some low ∧ declaration.high = some high := by
      rw [bounds?] at bounds
      split at bounds
      · rename_i lowGiven highGiven
        cases bounds
        exact ⟨lowGiven, highGiven⟩
      · cases bounds
    refine ⟨low, high, number, given.1, given.2, default, ordered, inside.1, inside.2, ?_⟩
    intro int
    rw [int] at integral others
    split at integral
    · cases integral
    · split at others
      · cases others
      · rename_i bounded whole
        simpa [and_assoc] using And.intro bounded whole
  · cases faultless

theorem Numeric.bounds?_eq {low high number : Double}
    (numeric : declaration.Numeric low high number) : declaration.bounds? = some (low, high) := by
  rw [bounds?, numeric.lowest, numeric.highest]

/-- The default is written, or it is the lower bound. -/
theorem Numeric.written {low high number : Double}
    (numeric : declaration.Numeric low high number) :
    (∃ written, declaration.default = some written ∧ written.number? = some number) ∨
      declaration.default = none ∧ number = low := by
  have initial := numeric.initial
  rw [defaultNumber?] at initial
  split at initial
  · rename_i written default
    exact Or.inl ⟨written, default, initial⟩
  · rename_i default
    rw [numeric.lowest] at initial
    exact Or.inr ⟨default, (Option.some.inj initial).symm⟩

/-- The default of an integer or a number that has a value is between the bounds. -/
theorem Numeric.between {low high number : Double}
    (numeric : declaration.Numeric low high number) (isNumber : number.isNumber = true) :
    low ≤ number ∧ number ≤ high := by
  obtain ⟨lowNumber, highNumber, _⟩ := Format.atMost_iff.mp numeric.ordered
  exact ⟨Format.atMost_of_not_less lowNumber isNumber numeric.notBelow,
    Format.atMost_of_not_less isNumber highNumber numeric.notAbove⟩

/-- An integer without faults yields the control that it declares. -/
theorem declares_int {low high number : Double} (numeric : declaration.Numeric low high number)
    (kind : declaration.kind = .int) :
    ∃ spec, declaration.toSpec = .ok spec ∧ declaration.Declares spec := by
  obtain ⟨lowInt, highInt, whole⟩ := numeric.whole kind
  obtain ⟨lowest, lowValue, lowCut, lowBound, _⟩ := exists_int_of_isInt32 lowInt
  obtain ⟨highest, highValue, highCut, _, highBound⟩ := exists_int_of_isInt32 highInt
  obtain ⟨value, valued, cut⟩ := Decoded.exists_int_of_isIntegral whole
  obtain ⟨above, below⟩ := numeric.between (Double.isNumber_of_value? valued)
  have aboveInt := Double.value_le above lowValue valued
  have belowInt := Double.value_le below valued highValue
  have orderedInt := Double.value_le numeric.ordered lowValue highValue
  rw [Int.cast_le] at aboveInt belowInt orderedInt
  have same : toInt32 number = value := by
    rw [toInt32, cut]
    omega
  have kept : clampInt value lowest highest = value := by
    rw [clampInt]
    omega
  refine ⟨⟨declaration.name, .int lowest highest, .int value⟩, ?_, rfl, kind.symm, ?_⟩
  · rw [toSpec, kind]
    rw [numeric.bounds?_eq, numeric.initial]
    dsimp only
    rw [Option.getD_some, lowCut, highCut, same, Spec.ofInt,
      if_neg (Int.not_lt.mpr orderedInt), kept]
    rfl
  · refine .int kind ⟨⟨low, numeric.lowest, lowValue⟩, ⟨high, numeric.highest, highValue⟩, ?_⟩
    rcases numeric.written with ⟨written, default, stands⟩ | ⟨default, rfl⟩
    · refine Or.inl ⟨written, default, ?_⟩
      exact Written.isInt_of_number? stands valued (by omega) (by omega)
    · have equal := Option.some.inj (valued.symm.trans lowValue)
      exact Or.inr ⟨default, Int.cast_inj.mp equal⟩

/-- A number without faults yields the control that it declares. -/
theorem declares_float {low high number : Double}
    (numeric : declaration.Numeric low high number) (kind : declaration.kind = .float) :
    ∃ spec, declaration.toSpec = .ok spec ∧ declaration.Declares spec := by
  have kept : clampSingle (singleOfDouble number) (singleOfDouble low) (singleOfDouble high) =
      singleOfDouble number := by
    cases isNumber : number.isNumber with
    | true =>
        obtain ⟨above, below⟩ := numeric.between isNumber
        exact Single.clampSingle_of_between (singleOfDouble_mono above)
          (singleOfDouble_mono below)
    | false =>
        apply Single.clampSingle_of_not_isNumber
        rw [isNumber_singleOfDouble, isNumber]
  refine ⟨⟨declaration.name, .float (singleOfDouble low) (singleOfDouble high),
    .float (singleOfDouble number)⟩, ?_, rfl, kind.symm, ?_⟩
  · rw [toSpec, kind]
    rw [numeric.bounds?_eq, numeric.initial]
    dsimp only
    rw [Option.getD_some, Spec.ofFloat, if_pos (singleOfDouble_mono numeric.ordered), kept]
    rfl
  · refine .float kind ⟨⟨low, numeric.lowest, rfl⟩, ⟨high, numeric.highest, rfl⟩, ?_⟩
    rcases numeric.written with ⟨written, default, stands⟩ | ⟨default, rfl⟩
    · exact Or.inl ⟨written, number, default, stands, rfl⟩
    · exact Or.inr ⟨default, rfl⟩

/-- A colour without faults yields the control that it declares. -/
theorem declares_color (wellFormed : Color.isWellFormed declaration.defaultColor = true)
    (kind : declaration.kind = .color) (written : declaration.IsColor declaration.defaultColor) :
    ∃ spec, declaration.toSpec = .ok spec ∧ declaration.Declares spec := by
  obtain ⟨color, parsed⟩ := Color.exists_of_isWellFormed wellFormed
  refine ⟨⟨declaration.name, .color, .color declaration.defaultColor⟩, ?_, rfl, kind.symm,
    .color kind written⟩
  rw [toSpec, kind]
  dsimp only
  rw [Spec.ofColor, parsed]
  rfl

/-- A declaration without faults yields the control that it declares. -/
theorem exists_declares (faultless : declaration.issues = []) :
    ∃ spec, declaration.toSpec = .ok spec ∧ declaration.Declares spec := by
  rw [issues] at faultless
  split at faultless
  · rename_i kind
    refine ⟨.ofBool declaration.name declaration.defaultBool, ?_, rfl, kind.symm,
      .bool kind ?_⟩
    · rw [toSpec, kind]
    · rw [IsSwitch, defaultBool]
      split at faultless
      · rename_i default
        rw [default]
        exact Or.inr ⟨rfl, rfl⟩
      · rename_i default
        rw [default]
        exact Or.inl rfl
      · cases faultless
  · rename_i kind
    obtain ⟨low, high, number, numeric⟩ := exists_numeric faultless
    exact declares_int numeric kind
  · rename_i kind
    obtain ⟨low, high, number, numeric⟩ := exists_numeric faultless
    exact declares_float numeric kind
  · rename_i kind
    split at faultless
    · rename_i default
      split at faultless
      · rename_i wellFormed
        refine declares_color wellFormed kind (Or.inr ⟨default, ?_⟩)
        rw [defaultColor, default]
      · cases faultless
    · rename_i default
      split at faultless
      · rename_i wellFormed
        refine declares_color wellFormed kind (Or.inl ?_)
        rw [defaultColor, default]
      · cases faultless
    · cases faultless

/-! ## Manifests -/

/-- Declarations without faults yield the controls that they declare, in order. -/
theorem exists_toSpecs (faultless : ∀ declaration ∈ declarations, declaration.issues = []) :
    ∃ specs, toSpecs declarations = .ok specs ∧ List.Forall₂ Declares declarations specs := by
  induction declarations with
  | nil => exact ⟨[], rfl, .nil⟩
  | cons first rest ih =>
      obtain ⟨spec, made, declares⟩ := exists_declares (faultless first List.mem_cons_self)
      obtain ⟨specs, more, later⟩ :=
        ih fun declaration member => faultless declaration (List.mem_cons_of_mem first member)
      refine ⟨spec :: specs, ?_, .cons declares later⟩
      rw [toSpecs, made]
      dsimp only
      rw [more]

end Declaration

theorem validate_of_loadManifest {files : Files.Tree} {path : Files.Path}
    {declarations : List Declaration}
    (read : Fragment.loadManifest files path = .ok declarations) :
    Declaration.validate declarations = [] := by
  unfold Fragment.loadManifest at read
  dsimp only at read
  cases found : files.readText (Fragment.manifestPath path) with
  | error cause =>
      rw [found] at read
      cases cause with
      | notFound =>
          cases read
          rfl
      | _ => cases read
  | ok document =>
      rw [found] at read
      dsimp only at read
      cases parsed : Manifest.read? document with
      | none =>
          rw [parsed] at read
          cases read
      | some declared =>
          rw [parsed] at read
          dsimp only at read
          cases faults : Declaration.validate declared with
          | nil =>
              rw [faults] at read
              cases read
              exact faults
          | cons fault others =>
              rw [faults] at read
              cases read

/-- What is loaded with a fragment has no faults. -/
theorem validate_of_load {library : Fragment.Library} {files : Files.Tree}
    {options : Fragment.Options} {name : String} {loaded : Fragment.Loaded}
    (loads : library.load files options name = .ok loaded) :
    Declaration.validate loaded.controls = [] := by
  rw [Fragment.Library.load] at loads
  split at loads
  · cases loads
  split at loads
  · cases loads
  split at loads
  · cases loads
  rename_i controls read
  cases loads
  exact validate_of_loadManifest read

open Console in
/--
A manifest without faults always yields its controls.  There is one for each declaration,
in order, under its name and of its kind; the bounds and the default of an integer are
exactly those that are declared, and so are the defaults of switches and colours.  So a
selected fragment that could be loaded is handed to the window.
-/
theorem controls_of_validate :
    (∀ declarations, Declaration.validate declarations = [] →
      ∃ specs, Declaration.toSpecs declarations = .ok specs ∧
        List.Forall₂ Declaration.Declares declarations specs ∧
        (specs.map Spec.name).Nodup ∧
        ∀ spec ∈ specs, (Text.trim spec.name.toList).isEmpty = false) ∧
      ∀ (operator : Operator) (place : Place) (name : String) (loaded : Fragment.Loaded),
        operator.selected = some name →
        operator.library.load place.files .full name = .ok loaded →
          ∃ specs, Declaration.toSpecs loaded.controls = .ok specs ∧
            operator.reload place =
              hand place (operator.track place.files name)
                { operator.track place.files name with current := some loaded }
                (.load loaded.content specs) := by
  constructor
  · intro declarations valid
    have faultless := Declaration.faultless_of_issuesAfter valid
    obtain ⟨specs, made, declares⟩ := Declaration.exists_toSpecs fun declaration member =>
      (faultless declaration member).2
    refine ⟨specs, made, declares, (Declaration.declared_of_validate valid made).distinct, ?_⟩
    intro spec member
    have names := (Declaration.made_of_toSpecs made).1
    obtain ⟨declaration, declared, same⟩ :=
      List.mem_map.mp (names ▸ List.mem_map_of_mem member)
    rw [← same]
    exact (faultless declaration declared).1
  · intro operator place name loaded selected loads
    have faultless := Declaration.faultless_of_issuesAfter (validate_of_load loads)
    obtain ⟨specs, made, _⟩ := Declaration.exists_toSpecs fun declaration member =>
      (faultless declaration member).2
    refine ⟨specs, made, ?_⟩
    rw [Operator.reload, selected]
    dsimp only
    rw [track_library, loads]
    dsimp only
    rw [made]

/-- An integer over all of its range, a number without an upper bound, and a colour. -/
def wideDeclarations : List Declaration :=
  [⟨"steps", .int, some (doubleOfInt minInt32), some (doubleOfInt maxInt32), none⟩,
    ⟨"gain", .float, some (doubleOfInt 0), some (.ofPattern Format.double.infinityBits),
      some (.int 1)⟩,
    ⟨"tint", .color, none, none, some (.text "#fff")⟩]

/-- A fragment with a manifest. -/
def tunedFiles : Files.Tree := ⟨[
  (["lib"], .directory),
  (["lib", "a.frag"], .file (.text "void main() {}\n")),
  (["lib", "a.toml"], .file (.text
    "[[controls]]\nname = \"steps\"\ntype = \"i32\"\nmin = 0\nmax = 9\n"))], []⟩

theorem controls_of_wideDeclarations :
    (∃ specs, Declaration.toSpecs wideDeclarations = .ok specs ∧
      List.Forall₂ Declaration.Declares wideDeclarations specs) ∧
    ∃ loaded specs, (Console.Operator.start ⟨"/lib"⟩).library.load tunedFiles .full "a.frag" =
        .ok loaded ∧ loaded.controls.length = 1 ∧
      ({ Console.Operator.start ⟨"/lib"⟩ with selected := some "a.frag" }.reload
        ⟨tunedFiles, true⟩).sent = some (.load loaded.content specs) := by
  have valid : Declaration.validate wideDeclarations = [] := by decide +kernel
  obtain ⟨specs, made, declares, _⟩ := controls_of_validate.1 wideDeclarations valid
  refine ⟨⟨specs, made, declares⟩, ?_⟩
  have one : (Fragment.Library.load ⟨"/lib"⟩ tunedFiles .full "a.frag").toOption.map
      (fun loaded => loaded.controls.length) = some 1 := by decide +kernel
  cases loads : Fragment.Library.load ⟨"/lib"⟩ tunedFiles .full "a.frag" with
  | error cause =>
      rw [loads] at one
      cases one
  | ok loaded =>
      rw [loads] at one
      obtain ⟨specs, _, reloaded⟩ := controls_of_validate.2
        { Console.Operator.start ⟨"/lib"⟩ with selected := some "a.frag" } ⟨tunedFiles, true⟩
        "a.frag" loaded rfl loads
      refine ⟨loaded, specs, loads, Option.some.inj one, ?_⟩
      rw [reloaded]
      rfl

end LiveShader.Manifest
