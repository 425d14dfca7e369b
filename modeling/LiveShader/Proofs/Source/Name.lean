import LiveShader.Source.Translation

/-!
# Names

A name is a run of letters, digits and underscores that does not begin with a digit.  No
character of a name is blank, so a name neither ends a line nor holds a separator.
-/

namespace LiveShader.Source

open LiveShader.Text

theorem isBlank_of_isNameChar {c : Char} (named : isNameChar c = true) : isBlank c = false := by
  have low : ∀ d : Char, d ≤ c → d.toNat ≤ c.toNat := fun d le => UInt32.le_iff_toNat_le.mp le
  have high : ∀ d : Char, c ≤ d → c.toNat ≤ d.toNat := fun d le => UInt32.le_iff_toNat_le.mp le
  have bounds : 48 ≤ c.toNat ∧ c.toNat ≤ 57 ∨ 65 ≤ c.toNat ∧ c.toNat ≤ 90 ∨ c.toNat = 95 ∨
      97 ≤ c.toNat ∧ c.toNat ≤ 122 := by
    have spelled : ((decide ('A' ≤ c ∧ c ≤ 'Z') || (decide ('a' ≤ c) && decide (c ≤ 'z'))) ||
        (decide ('0' ≤ c) && decide (c ≤ '9')) || c == '_') = true := named
    simp only [Bool.or_eq_true, Bool.and_eq_true, decide_eq_true_eq, beq_iff_eq] at spelled
    rcases spelled with ((⟨least, most⟩ | ⟨least, most⟩) | ⟨least, most⟩) | rfl
    · exact Or.inr (Or.inl ⟨low 'A' least, high 'Z' most⟩)
    · exact Or.inr (Or.inr (Or.inr ⟨low 'a' least, high 'z' most⟩))
    · exact Or.inl ⟨low '0' least, high '9' most⟩
    · exact Or.inr (Or.inr (Or.inl rfl))
  simp only [isBlank, Bool.or_eq_false_iff, Bool.and_eq_false_iff, decide_eq_false_iff_not,
    beq_eq_false_iff_ne]
  omega

variable {name : List Char}

theorem isNameChar_of_isIdentifier (identifier : isIdentifier name = true) :
    ∀ c ∈ name, isNameChar c = true := by
  intro c member
  cases name with
  | nil => cases member
  | cons first rest =>
      simp only [isIdentifier, isNameStart, Bool.and_eq_true, List.all_eq_true] at identifier
      rcases List.mem_cons.mp member with rfl | later
      · have start := identifier.1
        simp only [Bool.or_eq_true] at start
        rcases start with letter | underscore
        · simp [isNameChar, Char.isAlphanum, letter]
        · simp [isNameChar, underscore]
      · exact identifier.2 c later

theorem ne_nil_of_isIdentifier (identifier : isIdentifier name = true) : name ≠ [] := by
  rintro rfl
  cases identifier

end LiveShader.Source
