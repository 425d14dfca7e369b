/-!
# Rounding up to a multiple

Offsets and row lengths are rounded up to the next multiple of a unit.
-/

namespace LiveShader.Number

/-- The least multiple of `unit` that is not below `value`. -/
def nextMultiple (value unit : Nat) : Nat := (value + unit - 1) / unit * unit

theorem le_nextMultiple (value : Nat) {unit : Nat} (positive : 0 < unit) :
    value ≤ nextMultiple value unit := by
  have split := Nat.div_add_mod' (value + unit - 1) unit
  have small := Nat.mod_lt (value + unit - 1) positive
  rw [nextMultiple]
  omega

theorem dvd_nextMultiple (value unit : Nat) : unit ∣ nextMultiple value unit :=
  Nat.dvd_mul_left unit _

theorem nextMultiple_le {value unit multiple : Nat} (positive : 0 < unit)
    (above : value ≤ multiple) (divides : unit ∣ multiple) :
    nextMultiple value unit ≤ multiple := by
  obtain ⟨count, rfl⟩ := divides
  rw [nextMultiple, Nat.mul_comm unit count]
  apply Nat.mul_le_mul_right
  apply Nat.le_of_lt_succ
  rw [Nat.div_lt_iff_lt_mul positive, Nat.succ_mul, Nat.mul_comm count unit]
  omega

end LiveShader.Number
