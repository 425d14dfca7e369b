import LiveShader.Proofs.Number.Value

/-!
# Numbers without a minus sign

Numbers without a minus sign, infinity among them, are closed under sums and quotients by a
positive number.  The difference of two of them is a number again unless both are infinite,
and then they are equal.  So of two such numbers one can always say whether they are apart
by more than a limit.
-/

namespace LiveShader.Number

namespace Decoded

/-- Whether the value is a number without a minus sign, infinity included. -/
def IsNonnegative : Decoded → Prop
  | .notANumber _ => False
  | .infinite negative => negative = false
  | .finite negative _ _ => negative = false

theorem IsNonnegative.add {x y : Decoded} (left : x.IsNonnegative) (right : y.IsNonnegative) :
    (x.add y).IsNonnegative := by
  cases x with
  | notANumber negative => cases left
  | infinite negative =>
      cases left
      cases y with
      | notANumber negative => cases right
      | infinite negative =>
          cases right
          exact rfl
      | finite negative significand exponent => exact rfl
  | finite negative significand exponent =>
      cases left
      cases y with
      | notANumber negative => cases right
      | infinite negative =>
          cases right
          exact rfl
      | finite negative' significand' exponent' =>
          cases right
          have notBelow : ∀ parts other shift shift' : Nat,
              ¬ scaledInt false parts shift + scaledInt false other shift' < 0 := by
            intro parts other shift shift'
            exact Int.not_lt.mpr (Int.add_nonneg (Int.natCast_nonneg _) (Int.natCast_nonneg _))
          simp [Decoded.add, IsNonnegative, notBelow]

/-- A difference is a number, unless it is that of two infinities. -/
theorem IsNonnegative.sub {x y : Decoded} (left : x.IsNonnegative) (right : y.IsNonnegative) :
    (x = .infinite false ∧ y = .infinite false) ∨
      ∀ negative, x.add y.negate ≠ .notANumber negative := by
  cases x with
  | notANumber negative => cases left
  | infinite negative =>
      cases left
      cases y with
      | notANumber negative => cases right
      | infinite negative =>
          cases right
          exact Or.inl ⟨rfl, rfl⟩
      | finite negative significand exponent => exact Or.inr fun _ => nofun
  | finite negative significand exponent =>
      cases y with
      | notANumber negative => cases right
      | infinite negative => exact Or.inr fun _ => nofun
      | finite negative' significand' exponent' => exact Or.inr fun _ => nofun

/-- The difference of a number and itself is zero, or it is not a number. -/
theorem add_negate_self (x : Decoded) :
    (∃ negative, x.add x.negate = .notANumber negative) ∨
      ∃ negative exponent, x.add x.negate = .finite negative 0 exponent := by
  cases x with
  | notANumber negative => exact Or.inl ⟨_, rfl⟩
  | infinite negative => cases negative <;> exact Or.inl ⟨_, rfl⟩
  | finite negative significand exponent =>
      have cancels : ∀ shift, scaledInt negative significand shift +
          scaledInt (!negative) significand shift = 0 := by
        intro shift
        cases negative <;> simp [scaledInt]
      refine Or.inr ⟨false, exponent, ?_⟩
      simp [negate, Decoded.add, cancels]

end Decoded

namespace Format

/-- Only one pattern stands for the infinity without a minus sign. -/
theorem eq_infinityBits {format : Format} {x : Nat} (infinite : format.decode x = .infinite false) :
    x = format.infinityBits := by
  have whole := Nat.div_add_mod' (x % format.signBit) format.hidden
  rw [decode] at infinite
  split at infinite
  · rename_i top
    split at infinite
    · rename_i zero
      have small : x < format.signBit := by
        rw [Decoded.infinite.injEq, decide_eq_false_iff_not] at infinite
        exact Nat.not_le.mp infinite
      rw [top, zero, Nat.add_zero, Nat.mod_eq_of_lt small] at whole
      exact whole.symm
    · cases infinite
  · split at infinite <;> cases infinite

theorem encode_zero (format : Format) (negative : Bool) (exponent : Int) :
    format.encode (.finite negative 0 exponent) = format.signed negative 0 := by
  have nothing : (binaryRatio 0 exponent).1 = 0 := by
    cases exponent with
    | ofNat up => exact Nat.zero_mul _
    | negSucc down => rfl
  rw [encode, roundRatio, if_pos nothing]

theorem isNonnegative_decode {format : Format} {x : Nat} (small : x < format.infinityBits) :
    (format.decode x).IsNonnegative := by
  have unsigned : x < format.signBit := small.trans format.infinityBits_lt_signBit
  have finite : format.isFinite x = true := by
    rw [isFinite, magnitude, Nat.mod_eq_of_lt unsigned]
    exact decide_eq_true small
  rw [decode_of_isFinite finite]
  exact decide_eq_false (Nat.not_le.mpr unsigned)

end Format

namespace Single

variable {x y limit : Single}

/-- Whether a value is a number without a minus sign, infinity included. -/
def IsNonnegative (value : Single) : Prop := (decodeSingle value).IsNonnegative

theorem pattern_ofPattern {pattern : Nat} (small : pattern < 2 ^ 32) :
    (ofPattern pattern).pattern = pattern := Nat.mod_eq_of_lt small

theorem isNonnegative_ofPattern {pattern : Nat} (small : pattern ≤ Format.single.infinityBits) :
    (ofPattern pattern).IsNonnegative := by
  have bound : Format.single.infinityBits < 2 ^ 32 := by decide
  rw [IsNonnegative, decodeSingle, pattern_ofPattern (small.trans_lt bound)]
  rcases small.lt_or_eq with finite | rfl
  · exact Format.isNonnegative_decode finite
  · exact rfl

theorem isNonnegative_toSingle {decoded : Decoded} (nonnegative : decoded.IsNonnegative) :
    decoded.toSingle.IsNonnegative := by
  apply isNonnegative_ofPattern
  cases decoded with
  | notANumber negative => cases nonnegative
  | infinite negative =>
      cases nonnegative
      exact (Nat.zero_add _).le
  | finite negative significand exponent =>
      cases nonnegative
      exact (Nat.zero_add _).le.trans (Format.single.roundRatio_le_infinityBits _ _)

theorem isNonnegative_singleOfInt (value : Nat) : (singleOfInt value).IsNonnegative :=
  isNonnegative_toSingle (decide_eq_false (Int.not_lt.mpr (Int.natCast_nonneg value)))

theorem IsNonnegative.add (left : x.IsNonnegative) (right : y.IsNonnegative) :
    (x + y).IsNonnegative := isNonnegative_toSingle (Decoded.IsNonnegative.add left right)

/-- The quotient by a positive finite number. -/
theorem IsNonnegative.div (nonnegative : x.IsNonnegative) {significand : Nat} {exponent : Int}
    (divisor : decodeSingle y = .finite false significand exponent)
    (positive : significand ≠ 0) : (x / y).IsNonnegative := by
  apply isNonnegative_ofPattern
  rw [IsNonnegative] at nonnegative
  rw [divisor]
  generalize decodeSingle x = dividend at nonnegative
  cases dividend with
  | notANumber negative => cases nonnegative
  | infinite negative =>
      cases nonnegative
      exact (Nat.zero_add _).le
  | finite negative significand' exponent' =>
      cases nonnegative
      rw [Decoded.quotientBits, if_neg positive]
      exact (Nat.zero_add _).le.trans (Format.single.roundRatio_le_infinityBits _ _)

theorem isNumber_toSingle {decoded : Decoded}
    (number : ∀ negative, decoded ≠ .notANumber negative) : decoded.toSingle.isNumber = true := by
  rw [isNumber, pattern_toSingle]
  cases decoded with
  | notANumber negative => exact absurd rfl (number negative)
  | infinite negative => exact Format.isNumber_signed negative le_rfl
  | finite negative significand exponent =>
      exact Format.isNumber_signed negative (Format.single.roundRatio_le_infinityBits _ _)

theorem pattern_magnitude (value : Single) :
    value.magnitude.pattern = Format.single.magnitude value.pattern :=
  pattern_ofPattern ((Nat.mod_lt _ (by decide)).trans (by decide))

theorem isNumber_magnitude (value : Single) : value.magnitude.isNumber = value.isNumber := by
  rw [isNumber, isNumber, pattern_magnitude, Format.isNumber, Format.isNumber, Format.magnitude,
    Format.magnitude, Nat.mod_mod]

/-- What is not apart by more than a limit is equal, or apart by at most the limit. -/
theorem eq_or_le_of_not_lt (left : x.IsNonnegative) (right : y.IsNonnegative)
    (number : limit.isNumber = true) (close : ¬ limit < (x - y).magnitude) :
    x = y ∨ (x - y).magnitude ≤ limit := by
  rcases Decoded.IsNonnegative.sub left right with ⟨infinite, infinite'⟩ | difference
  · have same : x.bits.toNat = y.bits.toNat :=
      (Format.eq_infinityBits infinite).trans (Format.eq_infinityBits infinite').symm
    exact Or.inl (congrArg Single.mk (UInt32.toNat.inj same))
  · have apart : (x - y).magnitude.isNumber = true :=
      (isNumber_magnitude _).trans (isNumber_toSingle difference)
    exact Or.inr (Format.atMost_of_not_less apart number close)

/-- No number is apart from itself. -/
theorem not_lt_magnitude_sub_self (x : Single)
    (nonnegative : 0 ≤ Format.single.rank limit.pattern) : ¬ limit < (x - x).magnitude := by
  intro apart
  obtain ⟨_, number, larger⟩ := Format.less_iff.mp apart
  have difference : x - x = ((decodeSingle x).add (decodeSingle x).negate).toSingle := rfl
  rcases Decoded.add_negate_self (decodeSingle x) with ⟨negative, odd⟩ | ⟨negative, exponent, zero⟩
  · have undefined : (x - x).magnitude.isNumber = false := by
      rw [isNumber_magnitude, difference, odd]
      cases negative <;> rfl
    cases number.symm.trans undefined
  · have nothing : (x - x).magnitude.pattern = 0 := by
      rw [pattern_magnitude, difference, zero, pattern_toSingle, Format.encode_zero,
        Format.magnitude_signed negative (by decide)]
    rw [nothing] at larger
    exact Int.not_lt.mpr nonnegative larger

end Single

end LiveShader.Number
