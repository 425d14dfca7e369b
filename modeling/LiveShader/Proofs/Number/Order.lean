import LiveShader.Number.Binary

/-!
# The order of binary numbers

Two numbers are compared by their ranks, the infinities at the ends.  What a decoded number
is written as is a number again, and a number kept between two limits lies between them;
only what is not a number stays outside of every order.
-/

namespace LiveShader.Number

namespace Format

variable {format : Format} {negative : Bool} {magnitude x y : Nat}

/-! ## Patterns -/

theorem hidden_pos (format : Format) : 0 < format.hidden := Nat.two_pow_pos _

theorem signBit_eq (format : Format) :
    format.signBit = (format.topField + 1) * format.hidden := by
  change 2 ^ (format.precision - 1 + format.exponentBits) =
    (2 ^ format.exponentBits - 1 + 1) * 2 ^ (format.precision - 1)
  rw [Nat.sub_add_cancel Nat.one_le_two_pow, Nat.pow_add, Nat.mul_comm]

theorem infinityBits_lt_signBit (format : Format) : format.infinityBits < format.signBit := by
  rw [signBit_eq, infinityBits, Nat.add_mul, Nat.one_mul]
  exact Nat.lt_add_of_pos_right format.hidden_pos

theorem magnitude_signed (negative : Bool) (small : magnitude < format.signBit) :
    format.magnitude (format.signed negative magnitude) = magnitude := by
  rw [Format.magnitude, signed]
  split
  · rw [Nat.add_mod_left, Nat.mod_eq_of_lt small]
  · rw [Nat.zero_add, Nat.mod_eq_of_lt small]

theorem rank_signed (negative : Bool) (small : magnitude < format.signBit) :
    format.rank (format.signed negative magnitude) =
      if negative then -(magnitude : Int) else magnitude := by
  rw [rank, magnitude_signed negative small, signed]
  cases negative
  · rw [if_neg Bool.false_ne_true, if_neg Bool.false_ne_true, if_neg (by omega)]
  · rw [if_pos rfl, if_pos rfl, if_pos (Nat.le_add_right _ _)]

theorem isNumber_signed (negative : Bool) (small : magnitude ≤ format.infinityBits) :
    format.isNumber (format.signed negative magnitude) = true := by
  rw [isNumber, magnitude_signed negative (Nat.lt_of_le_of_lt small format.infinityBits_lt_signBit)]
  exact decide_eq_true small

theorem signed_lt (negative : Bool) (small : magnitude < format.signBit) :
    format.signed negative magnitude < 2 * format.signBit := by
  rw [signed]
  split <;> omega

theorem roundRatio_le_infinityBits (format : Format) (numerator denominator : Nat) :
    format.roundRatio numerator denominator ≤ format.infinityBits := by
  rw [roundRatio]
  split
  · exact Nat.zero_le _
  · exact Nat.min_le_right _ _

theorem notANumberBits_lt_signBit (format : Format) :
    format.notANumberBits < format.signBit := by
  have positive := format.hidden_pos
  rw [notANumberBits, signBit_eq, Nat.add_mul, infinityBits]
  omega

theorem encode_lt (format : Format) (decoded : Decoded) :
    format.encode decoded < 2 * format.signBit := by
  cases decoded with
  | notANumber negative => exact signed_lt negative format.notANumberBits_lt_signBit
  | infinite negative => exact signed_lt negative format.infinityBits_lt_signBit
  | finite negative significand exponent =>
      exact signed_lt negative (Nat.lt_of_le_of_lt (format.roundRatio_le_infinityBits _ _)
        format.infinityBits_lt_signBit)

/-! ## Comparisons -/

theorem atMost_iff : format.atMost x y = true ↔
    format.isNumber x = true ∧ format.isNumber y = true ∧ format.rank x ≤ format.rank y := by
  rw [atMost, Bool.and_eq_true, Bool.and_eq_true, decide_eq_true_eq, and_assoc]

theorem less_iff : format.less x y = true ↔
    format.isNumber x = true ∧ format.isNumber y = true ∧ format.rank x < format.rank y := by
  rw [less, Bool.and_eq_true, Bool.and_eq_true, decide_eq_true_eq, and_assoc]

theorem atMost_self (number : format.isNumber x = true) : format.atMost x x = true :=
  atMost_iff.mpr ⟨number, number, Int.le_refl _⟩

/-- Of two numbers one is at most the other. -/
theorem atMost_of_not_less (first : format.isNumber x = true) (second : format.isNumber y = true)
    (unordered : ¬ format.less y x = true) : format.atMost x y = true := by
  refine atMost_iff.mpr ⟨first, second, ?_⟩
  exact Int.not_lt.mp fun less => unordered (less_iff.mpr ⟨second, first, less⟩)

theorem not_less_of_atMost (ordered : format.atMost x y = true) : ¬ format.less y x = true :=
  fun less => Int.not_lt.mpr (atMost_iff.mp ordered).2.2 (less_iff.mp less).2.2

end Format

/-! ## Numbers of 32 bits -/

namespace Single

variable {value low high : Single}

theorem pattern_toSingle (decoded : Decoded) :
    decoded.toSingle.pattern = Format.single.encode decoded :=
  Nat.mod_eq_of_lt (Format.single.encode_lt decoded)

/-- An integer is written as a number. -/
theorem isNumber_singleOfInt (value : Int) : (singleOfInt value).isNumber = true := by
  rw [isNumber, singleOfInt, pattern_toSingle, decodedInt, Format.encode]
  exact Format.isNumber_signed _ (Format.single.roundRatio_le_infinityBits _ _)

theorem isNumber_of_isFinite (finite : value.isFinite = true) : value.isNumber = true := by
  rw [isFinite, Format.isFinite, decide_eq_true_eq] at finite
  rw [isNumber, Format.isNumber, decide_eq_true_eq]
  exact Nat.le_of_lt finite

/-- What is at most something is a number. -/
theorem isNumber_of_le (ordered : low ≤ high) :
    low.isNumber = true ∧ high.isNumber = true := by
  obtain ⟨first, second, _⟩ := Format.atMost_iff.mp ordered
  exact ⟨first, second⟩

/-- A number kept between two limits lies between them. -/
theorem between_clampSingle (ordered : low ≤ high) (number : value.isNumber = true) :
    low ≤ clampSingle value low high ∧ clampSingle value low high ≤ high := by
  obtain ⟨lowNumber, highNumber⟩ := isNumber_of_le ordered
  rw [clampSingle]
  split
  · exact ⟨Format.atMost_self lowNumber, ordered⟩
  · rename_i notBelow
    split
    · exact ⟨ordered, Format.atMost_self highNumber⟩
    · rename_i notAbove
      exact ⟨Format.atMost_of_not_less lowNumber number notBelow,
        Format.atMost_of_not_less number highNumber notAbove⟩

/-- A number that lies between the limits is kept as it is. -/
theorem clampSingle_of_between (above : low ≤ value) (below : value ≤ high) :
    clampSingle value low high = value := by
  have notBelow : ¬ value < low := Format.not_less_of_atMost above
  have notAbove : ¬ high < value := Format.not_less_of_atMost below
  rw [clampSingle, if_neg notBelow, if_neg notAbove]

/-- What is not a number is kept as it is. -/
theorem clampSingle_of_not_isNumber (low high : Single) (odd : value.isNumber = false) :
    clampSingle value low high = value := by
  rw [clampSingle, if_neg, if_neg]
  · exact fun above => Bool.eq_false_iff.mp odd (Format.less_iff.mp above).2.1
  · exact fun below => Bool.eq_false_iff.mp odd (Format.less_iff.mp below).1

end Single

end LiveShader.Number
