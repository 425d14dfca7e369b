import LiveShader.Proofs.Number.Order
import Mathlib.Algebra.Order.Field.Power
import Mathlib.Data.Int.Log
import Mathlib.Data.Rat.Floor
import Mathlib.Tactic.FieldSimp
import Mathlib.Tactic.Linarith
import Mathlib.Tactic.Positivity
import Mathlib.Tactic.Ring

/-!
# Rounding to a binary format

The pattern of a ratio is found in two steps: its logarithm gives an exponent, and the ratio
in units of this exponent is rounded to a significand.  Both steps grow with the ratio, and
where two ratios have different exponents their significands keep the patterns apart.  So
rounding keeps the order of ratios; a ratio whose significand is whole is kept as it is.
-/

namespace LiveShader.Number

/-! ## Rounding to integers -/

section Integers

variable {ratio other : ℚ} {numerator denominator bound : Nat} {exponent : Int}

/-- Whether the integer nearest to a ratio, the even one on a tie, is at most a bound. -/
def RoundsBelow (ratio : ℚ) (bound : Nat) : Prop :=
  2 * ratio < 2 * bound + 1 ∨ 2 * ratio = 2 * bound + 1 ∧ bound % 2 = 0

theorem RoundsBelow.mono (below : RoundsBelow other bound) (ordered : ratio ≤ other) :
    RoundsBelow ratio bound := by
  rcases below with less | ⟨tie, even⟩
  · exact Or.inl (by linarith)
  · rcases lt_or_eq_of_le ordered with less | rfl
    · exact Or.inl (by linarith)
    · exact Or.inr ⟨tie, even⟩

theorem roundsBelow_of_le (small : ratio ≤ bound) : RoundsBelow ratio bound :=
  Or.inl (by linarith)

/-- The quotient of a division, rounded, against a bound. -/
theorem roundDivEven_le_iff_mul (positive : 0 < denominator) :
    roundDivEven numerator denominator ≤ bound ↔
      2 * numerator < (2 * bound + 1) * denominator ∨
        2 * numerator = (2 * bound + 1) * denominator ∧ bound % 2 = 0 := by
  have rest := Nat.mod_lt numerator positive
  have whole := Nat.div_add_mod numerator denominator
  rw [roundDivEven]
  generalize numerator / denominator = quotient at whole ⊢
  generalize numerator % denominator = remainder at rest whole ⊢
  have expand : (2 * bound + 1) * denominator = 2 * (denominator * bound) + denominator := by ring
  rw [expand, ← whole]
  rcases Nat.lt_trichotomy quotient bound with less | rfl | more
  · have gap : denominator * quotient + denominator ≤ denominator * bound := by
      rw [← Nat.mul_succ]
      exact Nat.mul_le_mul_left denominator less
    split
    · omega
    · split <;> omega
  · split
    · omega
    · split <;> omega
  · have gap : denominator * bound + denominator ≤ denominator * quotient := by
      rw [← Nat.mul_succ]
      exact Nat.mul_le_mul_left denominator more
    split
    · omega
    · split <;> omega

theorem roundDivEven_le_iff (positive : 0 < denominator) :
    roundDivEven numerator denominator ≤ bound ↔
      RoundsBelow ((numerator : ℚ) / denominator) bound := by
  have positive' : (0 : ℚ) < denominator := by exact_mod_cast positive
  have less : 2 * ((numerator : ℚ) / denominator) < 2 * bound + 1 ↔
      2 * numerator < (2 * bound + 1) * denominator := by
    rw [← mul_div_assoc, div_lt_iff₀ positive']
    exact_mod_cast Iff.rfl
  have tie : 2 * ((numerator : ℚ) / denominator) = 2 * bound + 1 ↔
      2 * numerator = (2 * bound + 1) * denominator := by
    rw [← mul_div_assoc, div_eq_iff positive'.ne']
    exact_mod_cast Iff.rfl
  rw [roundDivEven_le_iff_mul positive, RoundsBelow, less, tie]

/-- A ratio in units of a power of two, rounded, against a bound. -/
theorem scaledRound_le_iff (positive : 0 < denominator) :
    scaledRound numerator denominator exponent ≤ bound ↔
      RoundsBelow ((numerator : ℚ) / denominator * 2 ^ (-exponent)) bound := by
  have nonzero : (denominator : ℚ) ≠ 0 := by exact_mod_cast positive.ne'
  cases exponent with
  | ofNat up =>
      have same : (numerator : ℚ) / (denominator * 2 ^ up : Nat) =
          numerator / denominator * 2 ^ (-Int.ofNat up) := by
        rw [zpow_neg, Int.ofNat_eq_natCast, zpow_natCast]
        push_cast
        field_simp
      rw [scaledRound, Nat.pow_eq,
        roundDivEven_le_iff (Nat.mul_pos positive (Nat.two_pow_pos up)), same]
  | negSucc down =>
      have same : ((numerator * 2 ^ (down + 1) : Nat) : ℚ) / denominator =
          numerator / denominator * 2 ^ (-Int.negSucc down) := by
        rw [Int.neg_negSucc, zpow_natCast]
        push_cast
        field_simp
      rw [scaledRound, Nat.pow_eq, roundDivEven_le_iff positive, same]

theorem reaches_iff (positive : 0 < denominator) :
    reaches numerator denominator bound exponent = true ↔
      (bound : ℚ) * 2 ^ exponent ≤ (numerator : ℚ) / denominator := by
  have positive' : (0 : ℚ) < denominator := by exact_mod_cast positive
  rw [le_div_iff₀ positive']
  cases exponent with
  | ofNat up =>
      have same : (bound : ℚ) * 2 ^ Int.ofNat up * denominator =
          (bound * denominator * 2 ^ up : Nat) := by
        rw [Int.ofNat_eq_natCast, zpow_natCast]
        push_cast
        ring
      rw [reaches, decide_eq_true_eq, Nat.pow_eq, same, Nat.cast_le]
  | negSucc down =>
      have power : (0 : ℚ) < 2 ^ (down + 1) := by positivity
      have same : (bound : ℚ) * 2 ^ Int.negSucc down * denominator =
          (bound * denominator : Nat) / 2 ^ (down + 1) := by
        rw [zpow_negSucc]
        push_cast
        field_simp
      rw [reaches, decide_eq_true_eq, Nat.pow_eq, same, div_le_iff₀ power]
      exact_mod_cast Iff.rfl

end Integers

/-! ## Rounding to a format -/

namespace Format

variable {format : Format} {numerator denominator : Nat} {ratio other : ℚ}

/-- The exponent at which a ratio is rounded. -/
def exponentOf (format : Format) (ratio : ℚ) : Int :=
  max (Int.log 2 ratio - format.precision + 1) format.minExponent

theorem exponentOf_mono (positive : 0 < ratio) (ordered : ratio ≤ other) :
    format.exponentOf ratio ≤ format.exponentOf other := by
  have logs := Int.log_mono_right (b := 2) positive ordered
  rw [exponentOf, exponentOf]
  omega

/-- The logarithm of a ratio from bounds on it. -/
theorem log_eq_of_between {power : Int} (above : (2 : ℚ) ^ power ≤ ratio)
    (below : ratio < 2 ^ (power + 1)) : Int.log 2 ratio = power := by
  have positive : 0 < ratio := lt_of_lt_of_le (zpow_pos two_pos power) above
  have low := (Int.zpow_le_iff_le_log (b := 2) (by decide) positive).mp (by exact_mod_cast above)
  have high := (Int.lt_zpow_iff_log_lt (b := 2) (by decide) positive).mp (by exact_mod_cast below)
  omega

/-- A number lies between the powers of two at its logarithm. -/
theorem between_log2 (some : 0 < numerator) :
    (2 : ℚ) ^ (numerator.log2 : Int) ≤ numerator ∧
      (numerator : ℚ) < 2 ^ ((numerator.log2 : Int) + 1) := by
  constructor
  · exact_mod_cast Nat.log2_self_le some.ne'
  · exact_mod_cast Nat.lt_log2_self (n := numerator)

/-- The exponent is found from the logarithms of the two parts of a ratio. -/
theorem fitted_eq (some : 0 < numerator) (positive : 0 < denominator) :
    (if reaches numerator denominator (Nat.pow 2 format.precision)
        ((numerator.log2 : Int) - denominator.log2 - format.precision) = true
      then (numerator.log2 : Int) - denominator.log2 - format.precision + 1
      else (numerator.log2 : Int) - denominator.log2 - format.precision) =
      Int.log 2 ((numerator : ℚ) / denominator) - format.precision + 1 := by
  have positive' : (0 : ℚ) < denominator := by exact_mod_cast positive
  obtain ⟨numeratorLow, numeratorHigh⟩ := between_log2 some
  obtain ⟨denominatorLow, denominatorHigh⟩ := between_log2 positive
  have nonzero : (2 : ℚ) ≠ 0 := by norm_num
  generalize (numerator.log2 : Int) = up at *
  generalize (denominator.log2 : Int) = down at *
  have unit : ((Nat.pow 2 format.precision : Nat) : ℚ) * 2 ^ (up - down - format.precision) =
      2 ^ (up - down) := by
    rw [Nat.pow_eq, Nat.cast_pow, ← zpow_natCast, Nat.cast_ofNat, ← zpow_add₀ nonzero]
    congr 1
    omega
  have reached_iff : reaches numerator denominator (Nat.pow 2 format.precision)
      (up - down - format.precision) = true ↔
        ((Nat.pow 2 format.precision : Nat) : ℚ) * 2 ^ (up - down - format.precision) ≤
          (numerator : ℚ) / denominator :=
    reaches_iff positive
  rw [unit] at reached_iff
  -- The ratio is more than a half and less than twice the power that it is compared with.
  have above : (2 : ℚ) ^ (up - down - 1) ≤ numerator / denominator := by
    rw [le_div_iff₀ positive']
    have step : (2 : ℚ) ^ (up - down - 1) * 2 ^ (down + 1) = 2 ^ up := by
      rw [← zpow_add₀ nonzero]
      congr 1
      omega
    have power : (0 : ℚ) < 2 ^ (up - down - 1) := by positivity
    calc (2 : ℚ) ^ (up - down - 1) * denominator
        ≤ 2 ^ (up - down - 1) * 2 ^ (down + 1) :=
          mul_le_mul_of_nonneg_left denominatorHigh.le power.le
      _ = 2 ^ up := step
      _ ≤ numerator := numeratorLow
  have below : (numerator : ℚ) / denominator < 2 ^ (up - down + 1) := by
    rw [div_lt_iff₀ positive']
    have step : (2 : ℚ) ^ (up - down + 1) * 2 ^ down = 2 ^ (up + 1) := by
      rw [← zpow_add₀ nonzero]
      congr 1
      omega
    have power : (0 : ℚ) < 2 ^ (up - down + 1) := by positivity
    calc (numerator : ℚ) < 2 ^ (up + 1) := numeratorHigh
      _ = 2 ^ (up - down + 1) * 2 ^ down := step.symm
      _ ≤ 2 ^ (up - down + 1) * denominator :=
          mul_le_mul_of_nonneg_left denominatorLow power.le
  split
  · rename_i reached
    rw [log_eq_of_between (reached_iff.mp reached) below]
  · rename_i missed
    have short : (numerator : ℚ) / denominator < 2 ^ (up - down - 1 + 1) := by
      rw [Int.sub_add_cancel]
      exact not_le.mp fun long => missed (reached_iff.mpr long)
    rw [log_eq_of_between above short]
    omega

theorem hidden_eq_zpow (normal : 0 < format.precision) :
    (format.hidden : ℚ) = 2 ^ ((format.precision : Int) - 1) := by
  rw [hidden, Nat.pow_eq, Nat.cast_pow, Nat.cast_ofNat, ← zpow_natCast]
  congr 1
  omega

/-- In units of its exponent a ratio is less than twice the hidden bit. -/
theorem scaled_lt (normal : 0 < format.precision) (ratio : ℚ) :
    ratio * 2 ^ (-format.exponentOf ratio) < 2 * format.hidden := by
  have unit : (0 : ℚ) < 2 ^ (-format.exponentOf ratio) := by positivity
  have below := Int.lt_zpow_succ_log_self (b := 2) (by decide) ratio
  have inside : Int.log 2 ratio + 1 - format.exponentOf ratio ≤ format.precision := by
    rw [exponentOf]
    omega
  calc ratio * 2 ^ (-format.exponentOf ratio)
      < 2 ^ (Int.log 2 ratio + 1) * 2 ^ (-format.exponentOf ratio) :=
        mul_lt_mul_of_pos_right (by exact_mod_cast below) unit
    _ = 2 ^ (Int.log 2 ratio + 1 - format.exponentOf ratio) := by
        rw [← zpow_add₀ two_ne_zero, ← sub_eq_add_neg]
    _ ≤ 2 ^ (format.precision : Int) := zpow_le_zpow_right₀ one_le_two inside
    _ = 2 * format.hidden := by
        rw [hidden_eq_zpow normal, ← zpow_one_add₀ two_ne_zero]
        congr 1
        omega

/-- Above the lowest exponent a ratio reaches the hidden bit in units of its exponent. -/
theorem hidden_le_scaled (normal : 0 < format.precision) (positive : 0 < ratio)
    (raised : format.minExponent < format.exponentOf ratio) :
    (format.hidden : ℚ) ≤ ratio * 2 ^ (-format.exponentOf ratio) := by
  have unit : (0 : ℚ) < 2 ^ (-format.exponentOf ratio) := by positivity
  have above := Int.zpow_log_le_self (b := 2) (by decide) positive
  have exponent : format.exponentOf ratio = Int.log 2 ratio - format.precision + 1 := by
    rw [exponentOf] at raised ⊢
    omega
  calc (format.hidden : ℚ) = 2 ^ ((format.precision : Int) - 1) := hidden_eq_zpow normal
    _ = 2 ^ Int.log 2 ratio * 2 ^ (-format.exponentOf ratio) := by
        rw [← zpow_add₀ two_ne_zero, exponent]
        congr 1
        omega
    _ ≤ ratio * 2 ^ (-format.exponentOf ratio) :=
        mul_le_mul_of_nonneg_right (by exact_mod_cast above) unit.le

theorem scaledRound_le (normal : 0 < format.precision) (positive : 0 < denominator) :
    scaledRound numerator denominator (format.exponentOf ((numerator : ℚ) / denominator)) ≤
      2 * format.hidden := by
  rw [scaledRound_le_iff positive]
  refine roundsBelow_of_le ?_
  push_cast
  exact (scaled_lt normal _).le

theorem hidden_le_scaledRound (normal : 0 < format.precision) (some : 0 < numerator)
    (positive : 0 < denominator)
    (raised : format.minExponent < format.exponentOf ((numerator : ℚ) / denominator)) :
    format.hidden ≤
      scaledRound numerator denominator (format.exponentOf ((numerator : ℚ) / denominator)) := by
  have reaches := hidden_le_scaled normal (by positivity) raised
  obtain ⟨less, same⟩ := Nat.exists_eq_add_of_le' format.hidden_pos
  rw [same, Nat.add_one_le_iff]
  refine not_le.mp fun small => ?_
  rw [same] at reaches
  push_cast at reaches
  rcases (scaledRound_le_iff positive).mp small with below | ⟨tie, _⟩ <;> linarith

/-- The significand at which a ratio is rounded. -/
theorem roundRatio_eq (some : 0 < numerator) (positive : 0 < denominator) :
    format.roundRatio numerator denominator =
      min ((format.exponentOf ((numerator : ℚ) / denominator) - format.minExponent).toNat *
          format.hidden +
        scaledRound numerator denominator (format.exponentOf ((numerator : ℚ) / denominator)))
        format.infinityBits := by
  rw [roundRatio, if_neg some.ne', exponentOf, ← fitted_eq some positive]

/-- Rounding keeps the order of ratios. -/
theorem roundRatio_mono {numerator' denominator' : Nat} (normal : 0 < format.precision)
    (positive : 0 < denominator) (positive' : 0 < denominator')
    (ordered : (numerator : ℚ) / denominator ≤ (numerator' : ℚ) / denominator') :
    format.roundRatio numerator denominator ≤ format.roundRatio numerator' denominator' := by
  rcases Nat.eq_zero_or_pos numerator with rfl | some
  · rw [roundRatio, if_pos rfl]
    exact Nat.zero_le _
  · have ratio : (0 : ℚ) < (numerator : ℚ) / denominator := by positivity
    have some' : 0 < numerator' := by
      refine Nat.pos_of_ne_zero ?_
      rintro rfl
      rw [Nat.cast_zero, zero_div] at ordered
      exact absurd ordered (not_le.mpr ratio)
    rw [roundRatio_eq some positive, roundRatio_eq some' positive']
    refine min_le_min_right _ ?_
    have exponents : format.exponentOf ((numerator : ℚ) / denominator) ≤
        format.exponentOf ((numerator' : ℚ) / denominator') :=
      exponentOf_mono ratio ordered
    have low : format.minExponent ≤ format.exponentOf ((numerator : ℚ) / denominator) :=
      le_max_right _ _
    rcases lt_or_eq_of_le exponents with less | same
    · -- The significands make up for less than one step of the exponent.
      have top : scaledRound numerator denominator
          (format.exponentOf ((numerator : ℚ) / denominator)) ≤ 2 * format.hidden :=
        scaledRound_le normal positive
      have bottom := hidden_le_scaledRound normal some' positive' (lt_of_le_of_lt low less)
      have step : (format.exponentOf ((numerator : ℚ) / denominator) -
            format.minExponent).toNat + 1 ≤
          (format.exponentOf ((numerator' : ℚ) / denominator') - format.minExponent).toNat := by
        omega
      have gap := Nat.mul_le_mul_right format.hidden step
      rw [Nat.add_mul] at gap
      omega
    · rw [same]
      refine Nat.add_le_add_left ?_ _
      rw [scaledRound_le_iff positive]
      refine ((scaledRound_le_iff positive').mp (Nat.le_refl _)).mono ?_
      exact mul_le_mul_of_nonneg_right ordered (by positivity)

/-- A significand that is whole is kept as it is. -/
theorem scaledRound_of_whole {exponent : Int} {whole : Nat} (positive : 0 < denominator)
    (same : (numerator : ℚ) / denominator * 2 ^ (-exponent) = whole) :
    scaledRound numerator denominator exponent = whole := by
  apply Nat.le_antisymm
  · rw [scaledRound_le_iff positive, same]
    exact roundsBelow_of_le (le_refl _)
  · refine not_lt.mp fun small => ?_
    obtain ⟨less, rfl⟩ := Nat.exists_eq_add_of_lt small
    have below := (scaledRound_le_iff positive).mp
      (Nat.le_add_right (scaledRound numerator denominator exponent) less)
    rw [same, RoundsBelow] at below
    push_cast at below
    rcases below with below | ⟨tie, _⟩ <;> linarith

end Format

end LiveShader.Number
