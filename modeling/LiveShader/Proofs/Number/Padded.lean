import LiveShader.Number.Text

/-!
# Padded numerals

Numbers that are written with zeros in front up to one width sort like texts as they sort like
numbers.  A numeral of full width is its leading digits with its last digit behind them, so two
of them are compared by their leading digits first.
-/

namespace LiveShader.Number

/-- The last digits of a number, as many as the width. -/
def lastDigits : Nat → Nat → List Char
  | 0, _ => []
  | width + 1, value => lastDigits width (value / 10) ++ [Nat.digitChar (value % 10)]

theorem digitChar_lt_iff {first second : Nat} (small₁ : first < 10) (small₂ : second < 10) :
    Nat.digitChar first < Nat.digitChar second ↔ first < second := by
  rw [Char.lt_def, UInt32.lt_iff_toNat_lt]
  change (Nat.digitChar first).toNat < (Nat.digitChar second).toNat ↔ first < second
  rw [Nat.toNat_digitChar_of_lt_ten small₁, Nat.toNat_digitChar_of_lt_ten small₂]
  omega

theorem digitChar_inj {first second : Nat} (small₁ : first < 10) (small₂ : second < 10) :
    Nat.digitChar first = Nat.digitChar second ↔ first = second := by
  constructor
  · intro same
    have codes := congrArg Char.toNat same
    rw [Nat.toNat_digitChar_of_lt_ten small₁, Nat.toNat_digitChar_of_lt_ten small₂] at codes
    omega
  · rintro rfl
    rfl

/-- Without its last digit a number fits into a width less by one. -/
theorem div_ten_lt {width value : Nat} (fits : value < Nat.pow 10 (width + 1)) :
    value / 10 < Nat.pow 10 width := by
  apply Nat.div_lt_of_lt_mul
  rw [Nat.mul_comm]
  exact fits

/-- A number that fits into a width is padded to its last digits. -/
theorem toList_padded {width value : Nat} (fits : value < Nat.pow 10 (width + 1)) :
    (padded (width + 1) value).toList = lastDigits (width + 1) value := by
  rw [padded, String.toList_ofList]
  induction width generalizing value with
  | zero =>
      have small : value < 10 := fits
      simp [Nat.toDigits_of_lt_base small, lastDigits, Nat.mod_eq_of_lt small]
  | succ width ih =>
      rw [lastDigits, ← ih (div_ten_lt fits)]
      by_cases small : value < 10
      · have none' : value / 10 = 0 := Nat.div_eq_of_lt small
        rw [none', Nat.toDigits_of_lt_base small, Nat.toDigits_of_lt_base (by decide : 0 < 10),
          Nat.mod_eq_of_lt small]
        simp [List.replicate_succ']
      · rw [Nat.toDigits_of_base_le (by decide) (Nat.le_of_not_lt small), List.length_append,
          List.length_singleton, Nat.add_sub_add_right, List.append_assoc]

/-- Digits of one width are compared like the numbers, before what follows them. -/
theorem lastDigits_append_lt_iff {width first second : Nat} (fits₁ : first < Nat.pow 10 width)
    (fits₂ : second < Nat.pow 10 width) (rest₁ rest₂ : List Char) :
    lastDigits width first ++ rest₁ < lastDigits width second ++ rest₂ ↔
      first < second ∨ first = second ∧ rest₁ < rest₂ := by
  induction width generalizing first second rest₁ rest₂ with
  | zero =>
      have zero₁ : first = 0 := Nat.lt_one_iff.mp fits₁
      have zero₂ : second = 0 := Nat.lt_one_iff.mp fits₂
      simp [lastDigits, zero₁, zero₂]
  | succ width ih =>
      have digit₁ := Nat.mod_lt first (by decide : 10 > 0)
      have digit₂ := Nat.mod_lt second (by decide : 10 > 0)
      have less : first < second ↔ first / 10 < second / 10 ∨
          first / 10 = second / 10 ∧ first % 10 < second % 10 := by omega
      have same : first = second ↔ first / 10 = second / 10 ∧ first % 10 = second % 10 := by omega
      rw [lastDigits, lastDigits, List.append_assoc, List.append_assoc,
        ih (div_ten_lt fits₁) (div_ten_lt fits₂), List.singleton_append, List.singleton_append,
        List.cons_lt_cons_iff, digitChar_lt_iff digit₁ digit₂, digitChar_inj digit₁ digit₂,
        less, same, and_or_left, ← or_assoc, and_assoc]

/-- Padded numerals of one width are compared like the numbers, before what follows them. -/
theorem padded_append_lt_iff {width first second : Nat} (fits₁ : first < Nat.pow 10 (width + 1))
    (fits₂ : second < Nat.pow 10 (width + 1)) (rest₁ rest₂ : List Char) :
    (padded (width + 1) first).toList ++ rest₁ < (padded (width + 1) second).toList ++ rest₂ ↔
      first < second ∨ first = second ∧ rest₁ < rest₂ := by
  rw [toList_padded fits₁, toList_padded fits₂]
  exact lastDigits_append_lt_iff fits₁ fits₂ rest₁ rest₂

end LiveShader.Number
