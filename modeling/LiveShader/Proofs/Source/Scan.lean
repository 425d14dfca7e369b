import LiveShader.Proofs.Source.Declaration
import LiveShader.Proofs.Text.Lines
import LiveShader.Proofs.Uniform.Layout
import Mathlib.Data.List.Forall2

/-!
# The scan of a fragment stage

A scan reads a stage line by line.  What becomes of a line depends on its code and on
the depth at which it stands, and a line takes the place of a line.  The scan only ever
pushes identifiers, so its layout is built.
-/

namespace LiveShader.Source

open LiveShader.Text

/-- The lines that may stand in the place of a line. -/
inductive Rewritten (line : List Char) : List Char → Prop where
  | kept : Rewritten line line
  | blanked (openBefore openAfter : Bool) : Rewritten line (Comment.edges openBefore openAfter)
  | led : Rewritten line (outputPlace ++ trimStart line)

theorem Rewritten.noFeed {line after : List Char} (rewritten : Rewritten line after)
    (single : '\n' ∉ line) : '\n' ∉ after := by
  cases rewritten with
  | kept => exact single
  | blanked openBefore openAfter => cases openBefore <;> cases openAfter <;> decide
  | led =>
      intro member
      rcases List.mem_append.mp member with place | rest
      · revert place
        decide
      · exact single (List.dropWhile_suffix _ |>.subset rest)

namespace Scan

variable {scan : Scan} {text : List Char}

/-- The code of a line, without the blanks around it. -/
def codeOf (scan : Scan) (text : List Char) : List Char :=
  trim (Comment.strip scan.isOpen text).code

/-- The scan past a line that declares nothing. -/
def past (scan : Scan) (text : List Char) : Scan :=
  { scan with
    isOpen := (Comment.strip scan.isOpen text).isOpen
    depth := scan.depth + braceBalance (scan.codeOf text) }

/-- What is left of a line whose code goes. -/
def edgesOf (scan : Scan) (text : List Char) : List Char :=
  Comment.edges scan.isOpen (Comment.strip scan.isOpen text).isOpen

/-- What may become of a line, and of the scan. -/
inductive Step (scan : Scan) (text : List Char) : Rewrite → Scan → Prop where
  | directive (spoken : (isVersion (scan.codeOf text) || isPrecision (scan.codeOf text)) = true) :
      Step scan text (.blank (scan.edgesOf text)) (scan.past text)
  | inner (silent : (isVersion (scan.codeOf text) || isPrecision (scan.codeOf text)) = false)
      (deep : scan.depth ≠ 0) : Step scan text .keep (scan.past text)
  | gathered (silent : (isVersion (scan.codeOf text) || isPrecision (scan.codeOf text)) = false)
      (top : scan.depth = 0) {type : Uniform.DataType} {names : List String}
      (declared : uniforms? (scan.codeOf text) = some (type, names)) :
      Step scan text (.blank (scan.edgesOf text))
        (names.foldl (fun scan' => scan'.addUniform type) (scan.past text))
  | output (silent : (isVersion (scan.codeOf text) || isPrecision (scan.codeOf text)) = false)
      (top : scan.depth = 0) (undeclared : uniforms? (scan.codeOf text) = none)
      (placed : isOutput (scan.codeOf text) = true) :
      Step scan text (.lead outputPlace) (scan.past text)
  | kept (silent : (isVersion (scan.codeOf text) || isPrecision (scan.codeOf text)) = false)
      (top : scan.depth = 0) (undeclared : uniforms? (scan.codeOf text) = none)
      (unplaced : isOutput (scan.codeOf text) = false) :
      Step scan text .keep (scan.past text)

theorem step_of_line {rewrite : Rewrite} {after : Scan}
    (read : scan.line text = (rewrite, after)) : Step scan text rewrite after := by
  rw [line] at read
  split at read
  · rename_i spoken
    cases read
    exact .directive spoken
  · rename_i spoken
    have silent := Bool.eq_false_iff.mpr spoken
    split at read
    · rename_i deep
      cases read
      exact .inner silent (by simpa using deep)
    · rename_i shallow
      have top : scan.depth = 0 := by simpa using shallow
      split at read
      · rename_i declared
        cases read
        exact .gathered silent top declared
      · rename_i undeclared
        split at read
        · rename_i placed
          cases read
          exact .output silent top undeclared placed
        · rename_i unplaced
          cases read
          exact .kept silent top undeclared (Bool.eq_false_iff.mpr unplaced)

theorem rewritten_line (scan : Scan) (text : List Char) :
    Rewritten text ((scan.line text).1.apply text) := by
  rcases read : scan.line text with ⟨rewrite, after⟩
  cases step_of_line read with
  | directive => exact .blanked _ _
  | inner => exact .kept
  | gathered => exact .blanked _ _
  | output => exact .led
  | kept => exact .kept

theorem rewritten_lines (scan : Scan) (texts : List (List Char)) :
    List.Forall₂ Rewritten texts (scan.lines texts).1 := by
  induction texts generalizing scan with
  | nil => exact .nil
  | cons text rest ih => exact .cons (scan.rewritten_line text) (ih _)

/-! ## The layout of a scan -/

theorem built_addUniform {type : Uniform.DataType} {name : String}
    (built : scan.layout.Built) (identifier : isIdentifier name.toList = true) :
    (scan.addUniform type name).layout.Built := by
  rw [addUniform]
  split
  · rename_i pushed
    exact .push built identifier pushed
  · exact built

theorem built_addUniforms {type : Uniform.DataType} {names : List String}
    (built : scan.layout.Built) (identifiers : ∀ name ∈ names, isIdentifier name.toList = true) :
    (names.foldl (fun scan' => scan'.addUniform type) scan).layout.Built := by
  induction names generalizing scan with
  | nil => exact built
  | cons name rest ih =>
      apply ih
      · exact built_addUniform built (identifiers name List.mem_cons_self)
      · exact fun other member => identifiers other (List.mem_cons_of_mem name member)

theorem built_line (built : scan.layout.Built) (text : List Char) :
    (scan.line text).2.layout.Built := by
  rcases read : scan.line text with ⟨rewrite, after⟩
  cases step_of_line read with
  | directive => exact built
  | inner => exact built
  | gathered _ _ declared =>
      obtain ⟨_, _, _, _, _, identifiers⟩ := Declaration.uniforms?_eq_some.mp declared
      exact built_addUniforms built identifiers
  | output => exact built
  | kept => exact built

theorem built_lines (built : scan.layout.Built) (texts : List (List Char)) :
    (scan.lines texts).2.layout.Built := by
  induction texts generalizing scan with
  | nil => exact built
  | cons text rest ih => exact ih (built_line built text)

/-! ## What a scan carries on -/

theorem carried_addUniforms (scan : Scan) (type : Uniform.DataType) (names : List String) :
    (names.foldl (fun scan' => scan'.addUniform type) scan).isOpen = scan.isOpen ∧
      (names.foldl (fun scan' => scan'.addUniform type) scan).depth = scan.depth := by
  induction names generalizing scan with
  | nil => exact ⟨rfl, rfl⟩
  | cons name rest ih =>
      obtain ⟨isOpen, depth⟩ := ih (scan.addUniform type name)
      rw [List.foldl_cons, isOpen, depth, addUniform]
      split
      · exact ⟨rfl, rfl⟩
      · exact ⟨rfl, rfl⟩

theorem carried_line (read : scan.line text = (rewrite, after)) :
    after.isOpen = (Comment.strip scan.isOpen text).isOpen ∧
      after.depth = scan.depth + braceBalance (scan.codeOf text) := by
  cases step_of_line read with
  | directive => exact ⟨rfl, rfl⟩
  | inner => exact ⟨rfl, rfl⟩
  | gathered => exact carried_addUniforms (scan.past text) _ _
  | output => exact ⟨rfl, rfl⟩
  | kept => exact ⟨rfl, rfl⟩

/-- A later scan has found no fault less and moved no slot. -/
structure Extends (scan after : Scan) : Prop where
  clean : after.fault = none → scan.fault = none
  slots : ∀ name slot, scan.layout.slot? name = some slot → after.layout.slot? name = some slot

theorem Extends.refl (scan : Scan) : scan.Extends scan :=
  ⟨fun clean => clean, fun _ _ found => found⟩

theorem Extends.trans {first second third : Scan} (early : first.Extends second)
    (late : second.Extends third) : first.Extends third :=
  ⟨fun clean => early.clean (late.clean clean),
    fun name slot found => late.slots name slot (early.slots name slot found)⟩

theorem extends_addUniform (scan : Scan) (type : Uniform.DataType) (name : String) :
    scan.Extends (scan.addUniform type name) := by
  rw [addUniform]
  split
  · rename_i pushed
    constructor
    · exact fun clean => clean
    · exact fun other slot found => Uniform.Layout.slot?_of_push pushed found
  · constructor
    · intro clean
      cases clean
    · exact fun other slot found => found

theorem extends_addUniforms (scan : Scan) (type : Uniform.DataType) (names : List String) :
    scan.Extends (names.foldl (fun scan' => scan'.addUniform type) scan) := by
  induction names generalizing scan with
  | nil => exact .refl scan
  | cons name rest ih => exact (scan.extends_addUniform type name).trans (ih _)

theorem extends_line (scan : Scan) (text : List Char) : scan.Extends (scan.line text).2 := by
  have past : scan.Extends (scan.past text) := ⟨fun clean => clean, fun _ _ found => found⟩
  rcases read : scan.line text with ⟨rewrite, after⟩
  cases step_of_line read with
  | directive => exact past
  | inner => exact past
  | gathered => exact past.trans (extends_addUniforms _ _ _)
  | output => exact past
  | kept => exact past

theorem extends_lines (scan : Scan) (texts : List (List Char)) :
    scan.Extends (scan.lines texts).2 := by
  induction texts generalizing scan with
  | nil => exact .refl scan
  | cons text rest ih => exact (scan.extends_line text).trans (ih _)

theorem slot?_addUniforms {type : Uniform.DataType} {names : List String}
    (clean : (names.foldl (fun scan' => scan'.addUniform type) scan).fault = none) :
    ∀ name ∈ names, ∃ offset,
      (names.foldl (fun scan' => scan'.addUniform type) scan).layout.slot? name =
        some ⟨offset, type⟩ := by
  induction names generalizing scan with
  | nil =>
      intro name member
      cases member
  | cons first rest ih =>
      intro name member
      rcases List.mem_cons.mp member with rfl | later
      · have extended := extends_addUniforms (scan.addUniform type name) type rest
        have clean' := extended.clean clean
        have slot : ∃ offset,
            (scan.addUniform type name).layout.slot? name = some ⟨offset, type⟩ := by
          rw [addUniform] at clean' ⊢
          split at clean'
          · rename_i pushed
            exact Uniform.Layout.slot?_push pushed
          · cases clean'
        obtain ⟨offset, found⟩ := slot
        exact ⟨offset, extended.slots name _ found⟩
      · exact ih clean name later

end Scan

end LiveShader.Source
