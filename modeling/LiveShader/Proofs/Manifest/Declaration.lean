import LiveShader.Manifest.Declaration
import LiveShader.Proofs.Control.Values

/-!
# What a manifest declares

The declarations of a manifest without faults have different names, and the controls that
a manifest yields are made by their constructors under the names of the declarations.
-/

namespace LiveShader.Manifest.Declaration

open LiveShader.Control

theorem eq_ok_of_mapError {made : Except Error Spec} {spec : Spec}
    (mapped : made.mapError SpecFault.refused = .ok spec) : made = .ok spec := by
  cases made with
  | error refusal => cases mapped
  | ok found =>
      cases mapped
      rfl

theorem names_of_issuesAfter {seen : List String} {declarations : List Declaration}
    (faultless : issuesAfter seen declarations = []) :
    (declarations.map Declaration.name).Nodup ∧
      ∀ declaration ∈ declarations, declaration.name ∉ seen := by
  induction declarations generalizing seen with
  | nil => exact ⟨List.nodup_nil, by simp⟩
  | cons first rest ih =>
      rw [issuesAfter] at faultless
      split at faultless
      · cases faultless
      · split at faultless
        · cases faultless
        · rename_i new
          obtain ⟨_, others⟩ := List.append_eq_nil_iff.mp faultless
          obtain ⟨distinct, later⟩ := ih others
          have fresh : first.name ∉ seen := by simpa using new
          constructor
          · rw [List.map_cons, List.nodup_cons]
            refine ⟨?_, distinct⟩
            intro again
            obtain ⟨other, member, same⟩ := List.mem_map.mp again
            exact later other member (same ▸ List.mem_cons_self)
          · intro declaration member
            rcases List.mem_cons.mp member with rfl | after
            · exact fresh
            · exact fun known => later declaration after (List.mem_cons_of_mem _ known)

/-- In a manifest without faults no name is blank, and no declaration has a fault of its own. -/
theorem faultless_of_issuesAfter {seen : List String} {declarations : List Declaration}
    (faultless : issuesAfter seen declarations = []) :
    ∀ declaration ∈ declarations,
      (Text.trim declaration.name.toList).isEmpty = false ∧ declaration.issues = [] := by
  induction declarations generalizing seen with
  | nil => simp
  | cons first rest ih =>
      rw [issuesAfter] at faultless
      split at faultless
      · cases faultless
      · rename_i named
        split at faultless
        · cases faultless
        · obtain ⟨own, others⟩ := List.append_eq_nil_iff.mp faultless
          intro declaration member
          rcases List.mem_cons.mp member with rfl | after
          · exact ⟨by simpa using named, own⟩
          · exact ih others declaration after

/-- A manifest without faults gives each control a name of its own. -/
theorem distinct_of_validate {declarations : List Declaration}
    (valid : validate declarations = []) : (declarations.map Declaration.name).Nodup :=
  (names_of_issuesAfter valid).1

/-- A control has the name of its declaration, and one of the constructors made it. -/
theorem made_of_toSpec {declaration : Declaration} {spec : Spec}
    (made : declaration.toSpec = .ok spec) : spec.name = declaration.name ∧ spec.Made := by
  rw [toSpec] at made
  split at made
  · cases made
    exact ⟨rfl, .bool _ _⟩
  · split at made
    · cases made
    · have whole := eq_ok_of_mapError made
      refine ⟨?_, .int whole⟩
      rw [(Spec.ofInt_made whole).2]
  · split at made
    · cases made
    · have whole := eq_ok_of_mapError made
      refine ⟨?_, .float whole⟩
      rw [(Spec.ofFloat_made whole).2]
  · have whole := eq_ok_of_mapError made
    refine ⟨?_, .color whole⟩
    rw [(Spec.ofColor_made whole).2]

theorem made_of_toSpecs {declarations : List Declaration} {specs : List Spec}
    (made : toSpecs declarations = .ok specs) :
    specs.map Spec.name = declarations.map Declaration.name ∧ ∀ spec ∈ specs, spec.Made := by
  induction declarations generalizing specs with
  | nil =>
      cases made
      exact ⟨rfl, by simp⟩
  | cons first rest ih =>
      rw [toSpecs] at made
      split at made
      · cases made
      · rename_i spec one
        split at made
        · cases made
        · rename_i others more
          cases made
          obtain ⟨name, first⟩ := made_of_toSpec one
          obtain ⟨names, later⟩ := ih more
          refine ⟨by rw [List.map_cons, List.map_cons, name, names], ?_⟩
          intro other member
          rcases List.mem_cons.mp member with rfl | after
          · exact first
          · exact later other after

/-- The controls of a manifest without faults can be installed. -/
theorem declared_of_validate {declarations : List Declaration} {specs : List Spec}
    (valid : validate declarations = []) (made : toSpecs declarations = .ok specs) :
    Spec.Declared specs := by
  obtain ⟨names, constructed⟩ := made_of_toSpecs made
  refine ⟨?_, constructed⟩
  rw [names]
  exact distinct_of_validate valid

end LiveShader.Manifest.Declaration
