import LiveShader.Proofs.Number.Rounding
import Mathlib.Data.Nat.Cast.Field

/-!
# The values of binary numbers

A finite pattern stands for its significand in units of its exponent.  Patterns grow with
what they stand for, so the order of numbers is the order of their values, and narrowing a
number to another format keeps the order.  Integers of at most the precision of a format
are written exactly.
-/

namespace LiveShader.Number

/-! ## Magnitudes -/

namespace Format

variable {format source target : Format} {magnitude other bits : Nat}

/-- How far the exponent of a magnitude is above the lowest one. -/
def raise (format : Format) (magnitude : Nat) : Nat := magnitude / format.hidden - 1

/-- The significand of a magnitude, the hidden bit included where there is one. -/
def significand (format : Format) (magnitude : Nat) : Nat :=
  magnitude - format.raise magnitude * format.hidden

/-- What a magnitude stands for; that of infinity stands for the power after the last one. -/
def size (format : Format) (magnitude : Nat) : ℚ :=
  format.significand magnitude * 2 ^ (format.minExponent + format.raise magnitude)

theorem raise_mul_add_significand (format : Format) (magnitude : Nat) :
    format.raise magnitude * format.hidden + format.significand magnitude = magnitude := by
  have under : format.raise magnitude * format.hidden ≤ magnitude :=
    le_trans (Nat.mul_le_mul_right _ (Nat.sub_le _ _)) (Nat.div_mul_le_self _ _)
  rw [significand]
  omega

theorem significand_lt (format : Format) (magnitude : Nat) :
    format.significand magnitude < 2 * format.hidden := by
  have rest := Nat.mod_lt magnitude format.hidden_pos
  have whole := Nat.div_add_mod' magnitude format.hidden
  rw [significand, raise]
  cases field : magnitude / format.hidden with
  | zero =>
      rw [field] at whole
      omega
  | succ less =>
      rw [field, Nat.add_mul] at whole
      rw [Nat.add_sub_cancel]
      omega

theorem hidden_le_significand (raised : 0 < format.raise magnitude) :
    format.hidden ≤ format.significand magnitude := by
  have whole := Nat.div_add_mod' magnitude format.hidden
  rw [raise] at raised
  rw [significand, raise]
  cases field : magnitude / format.hidden with
  | zero =>
      rw [field] at raised
      cases raised
  | succ less =>
      rw [field, Nat.add_mul] at whole
      rw [Nat.add_sub_cancel]
      omega

theorem raise_mono (ordered : magnitude ≤ other) :
    format.raise magnitude ≤ format.raise other :=
  Nat.sub_le_sub_right (Nat.div_le_div_right ordered) 1

/-- Patterns grow with what they stand for. -/
theorem size_mono (ordered : magnitude ≤ other) : format.size magnitude ≤ format.size other := by
  have parts := format.raise_mul_add_significand magnitude
  have parts' := format.raise_mul_add_significand other
  rw [size, size]
  have raised : format.raise magnitude ≤ format.raise other := raise_mono ordered
  rcases Nat.lt_or_eq_of_le raised with less | same
  · -- The significand is less than twice the hidden bit, and the other one is not below it.
    have top := format.significand_lt magnitude
    have bottom := hidden_le_significand (Nat.lt_of_le_of_lt (Nat.zero_le _) less)
    calc (format.significand magnitude : ℚ) * 2 ^ (format.minExponent + format.raise magnitude)
        ≤ (2 * format.hidden : Nat) * 2 ^ (format.minExponent + format.raise magnitude) :=
          mul_le_mul_of_nonneg_right (by exact_mod_cast top.le) (by positivity)
      _ = format.hidden * 2 ^ (format.minExponent + format.raise magnitude + 1) := by
          rw [zpow_add_one₀ two_ne_zero]
          push_cast
          ring
      _ ≤ format.hidden * 2 ^ (format.minExponent + format.raise other) :=
          mul_le_mul_of_nonneg_left (zpow_le_zpow_right₀ one_le_two (by omega)) (by positivity)
      _ ≤ format.significand other * 2 ^ (format.minExponent + format.raise other) :=
          mul_le_mul_of_nonneg_right (by exact_mod_cast bottom) (by positivity)
  · rw [same] at parts ⊢
    refine mul_le_mul_of_nonneg_right ?_ (by positivity)
    rw [Nat.cast_le]
    omega

/-- The size of a pattern that is put together from an exponent and a significand. -/
theorem size_mul_add {steps whole : Nat} (top : whole < 2 * format.hidden)
    (bottom : steps = 0 ∨ format.hidden ≤ whole) :
    format.size (steps * format.hidden + whole) = whole * 2 ^ (format.minExponent + steps) := by
  have raised : format.raise (steps * format.hidden + whole) = steps := by
    rw [raise, Nat.add_comm, Nat.add_mul_div_right _ _ format.hidden_pos]
    rcases Nat.lt_or_ge whole format.hidden with small | large
    · rw [Nat.div_eq_of_lt small]
      omega
    · rw [Nat.div_eq_of_lt_le (by omega) (show whole < (1 + 1) * format.hidden by omega)]
      omega
  have parts := format.raise_mul_add_significand (steps * format.hidden + whole)
  rw [raised] at parts
  rw [size, raised, Nat.add_left_cancel parts]

/-- A ratio whose significand is whole is written exactly. -/
theorem size_roundRatio {numerator denominator whole : Nat} (normal : 0 < format.precision)
    (some : 0 < numerator) (positive : 0 < denominator)
    (same : (numerator : ℚ) / denominator *
      2 ^ (-format.exponentOf ((numerator : ℚ) / denominator)) = whole)
    (fits : (format.exponentOf ((numerator : ℚ) / denominator) - format.minExponent).toNat *
      format.hidden + whole ≤ format.infinityBits) :
    format.size (format.roundRatio numerator denominator) = (numerator : ℚ) / denominator := by
  have low : format.minExponent ≤ format.exponentOf ((numerator : ℚ) / denominator) :=
    le_max_right _ _
  have top : whole < 2 * format.hidden := by
    have below := scaled_lt normal ((numerator : ℚ) / denominator)
    rw [same] at below
    exact_mod_cast below
  have bottom : (format.exponentOf ((numerator : ℚ) / denominator) -
      format.minExponent).toNat = 0 ∨ format.hidden ≤ whole := by
    rcases lt_or_eq_of_le low with raised | equal
    · have reached := hidden_le_scaledRound normal some positive raised
      rw [scaledRound_of_whole positive same] at reached
      exact Or.inr reached
    · exact Or.inl (by omega)
  rw [roundRatio_eq some positive, scaledRound_of_whole positive same, min_eq_left fits,
    size_mul_add top bottom, ← same, Int.toNat_of_nonneg (by omega), add_sub_cancel, mul_assoc,
    ← zpow_add₀ two_ne_zero, neg_add_cancel, zpow_zero, mul_one]

theorem size_zero (format : Format) : format.size 0 = 0 := by
  rw [size, significand, Nat.zero_sub, Nat.cast_zero, zero_mul]

/-- An integer of at most the precision of a format is written exactly. -/
theorem size_roundRatio_one (normal : 0 < format.precision)
    (small : magnitude < 2 ^ format.precision) (deep : format.minExponent ≤ 0)
    (fits : ((-format.minExponent).toNat + 2) * format.hidden ≤ format.infinityBits) :
    format.size (format.roundRatio magnitude 1) = magnitude := by
  rcases Nat.eq_zero_or_pos magnitude with rfl | some
  · rw [roundRatio, if_pos rfl, size_zero, Nat.cast_zero]
  · have one : (magnitude : ℚ) / (1 : Nat) = magnitude := by rw [Nat.cast_one, div_one]
    have log : Int.log 2 (magnitude : ℚ) < format.precision := by
      rw [← Int.lt_zpow_iff_log_lt (by decide) (by exact_mod_cast some)]
      exact_mod_cast small
    have low : format.exponentOf ((magnitude : ℚ) / (1 : Nat)) ≤ 0 := by
      rw [one, exponentOf]
      omega
    obtain ⟨shift, lifted⟩ := Int.eq_ofNat_of_zero_le (Int.neg_nonneg_of_nonpos low)
    have whole : (magnitude : ℚ) / (1 : Nat) *
        2 ^ (-format.exponentOf ((magnitude : ℚ) / (1 : Nat))) =
          (magnitude * 2 ^ shift : Nat) := by
      rw [lifted, one, zpow_natCast]
      push_cast
      rfl
    have top : magnitude * 2 ^ shift ≤ 2 * format.hidden := by
      have below := (scaled_lt normal ((magnitude : ℚ) / (1 : Nat))).le
      rw [whole] at below
      exact_mod_cast below
    have steps := Nat.mul_le_mul_right format.hidden (show
      (format.exponentOf ((magnitude : ℚ) / (1 : Nat)) - format.minExponent).toNat ≤
        (-format.minExponent).toNat by omega)
    rw [Nat.add_mul] at fits
    rw [size_roundRatio normal some Nat.one_pos whole (by omega), one]

end Format

/-! ## Values -/

/-- The value of a finite number. -/
def Decoded.value? : Decoded → Option ℚ
  | .finite negative significand exponent =>
      some (if negative then -(significand * 2 ^ exponent) else significand * 2 ^ exponent)
  | _ => none

theorem binaryRatio_eq (significand : Nat) (exponent : Int) :
    0 < (binaryRatio significand exponent).2 ∧
      ((binaryRatio significand exponent).1 : ℚ) / (binaryRatio significand exponent).2 =
        significand * 2 ^ exponent := by
  cases exponent with
  | ofNat up =>
      refine ⟨Nat.one_pos, ?_⟩
      rw [binaryRatio, Nat.pow_eq, Int.ofNat_eq_natCast, zpow_natCast]
      push_cast
      rw [div_one]
  | negSucc down =>
      refine ⟨Nat.two_pow_pos _, ?_⟩
      rw [binaryRatio, Nat.pow_eq, zpow_negSucc, ← div_eq_mul_inv]
      push_cast
      rfl

namespace Format

variable {format source target : Format} {x y : Nat}

/-- What a finite pattern stands for, by its sign and its magnitude. -/
theorem decode_of_isFinite (finite : format.isFinite x = true) :
    format.decode x = .finite (decide (format.signBit ≤ x))
      (format.significand (format.magnitude x))
      (format.minExponent + format.raise (format.magnitude x)) := by
  rw [isFinite, decide_eq_true_eq, infinityBits] at finite
  have field : format.magnitude x / format.hidden < format.topField :=
    (Nat.div_lt_iff_lt_mul format.hidden_pos).mpr finite
  have whole := Nat.div_add_mod' (format.magnitude x) format.hidden
  rw [decode]
  change (if format.magnitude x / format.hidden = format.topField then _ else _) = _
  rw [if_neg field.ne]
  change (if format.magnitude x / format.hidden = 0 then
      Decoded.finite _ (format.magnitude x % format.hidden) _
    else .finite _ (format.hidden + format.magnitude x % format.hidden)
      (format.minExponent + (format.magnitude x / format.hidden - 1 : Nat))) = _
  rw [significand, raise]
  split
  · rename_i zero
    rw [zero, Nat.zero_mul, Nat.zero_add] at whole
    rw [zero, whole, Nat.zero_sub, Nat.zero_mul, Nat.sub_zero, Nat.cast_zero, Int.add_zero]
  · rename_i nonzero
    obtain ⟨less, field⟩ := Nat.exists_eq_succ_of_ne_zero nonzero
    rw [field, Nat.succ_mul] at whole
    have same : format.hidden + format.magnitude x % format.hidden =
        format.magnitude x - (less + 1 - 1) * format.hidden := by
      rw [Nat.add_sub_cancel]
      omega
    rw [field, Nat.succ_eq_add_one, same]

theorem value?_decode (finite : format.isFinite x = true) :
    (format.decode x).value? =
      some (if format.signBit ≤ x then -format.size (format.magnitude x)
        else format.size (format.magnitude x)) := by
  rw [decode_of_isFinite finite, Decoded.value?, size]
  simp only [decide_eq_true_eq]

/-- What has a value is finite. -/
theorem isFinite_of_value? {value : ℚ} (valued : (format.decode x).value? = some value) :
    format.isFinite x = true := by
  rw [isFinite, decide_eq_true_eq]
  refine not_le.mp fun large => ?_
  have inside : format.magnitude x < format.signBit := Nat.mod_lt _ (Nat.two_pow_pos _)
  have field : format.magnitude x / format.hidden = format.topField := by
    rw [signBit_eq] at inside
    exact Nat.div_eq_of_lt_le large inside
  rw [decode] at valued
  change (if format.magnitude x / format.hidden = format.topField then
    (if _ then Decoded.infinite _ else .notANumber _) else _).value? = some value at valued
  rw [if_pos field] at valued
  split at valued <;> cases valued

/-- Whatever grows with the magnitude grows with the number, if signs are carried over. -/
theorem signed_mono {α : Type} [AddCommGroup α] [PartialOrder α] [IsOrderedAddMonoid α]
    {grown : Nat → α} (mono : Monotone grown) (zero : grown 0 = 0)
    (ranks : format.rank x ≤ format.rank y) :
    (if format.signBit ≤ x then -grown (format.magnitude x) else grown (format.magnitude x)) ≤
      if format.signBit ≤ y then -grown (format.magnitude y) else grown (format.magnitude y) := by
  have nonneg : ∀ magnitude, 0 ≤ grown magnitude := fun magnitude =>
    zero ▸ mono (Nat.zero_le magnitude)
  rw [rank, rank] at ranks
  split at ranks <;> split at ranks
  · rename_i negative negative'
    rw [if_pos negative, if_pos negative']
    exact neg_le_neg (mono (by omega))
  · rename_i negative positive
    rw [if_pos negative, if_neg positive]
    exact (neg_nonpos.mpr (nonneg _)).trans (nonneg _)
  · rename_i positive negative
    rw [if_neg positive, if_pos negative, show format.magnitude x = 0 by omega,
      show format.magnitude y = 0 by omega, zero, neg_zero]
  · rename_i positive positive'
    rw [if_neg positive, if_neg positive']
    exact mono (by omega)

/-- The order of finite numbers is the order of their values. -/
theorem value_le_of_atMost (ordered : format.atMost x y = true) {first second : ℚ}
    (firstValue : (format.decode x).value? = some first)
    (secondValue : (format.decode y).value? = some second) : first ≤ second := by
  have finite := isFinite_of_value? firstValue
  have finite' := isFinite_of_value? secondValue
  rw [value?_decode finite, Option.some.injEq] at firstValue
  rw [value?_decode finite', Option.some.injEq] at secondValue
  rw [← firstValue, ← secondValue]
  exact signed_mono (fun _ _ => size_mono) format.size_zero (atMost_iff.mp ordered).2.2

/-! ## Narrowing -/

/-- The magnitude, in another format, of the number nearest to what a magnitude stands for. -/
def narrowed (source target : Format) (magnitude : Nat) : Nat :=
  if magnitude < source.infinityBits then
    target.roundRatio
      (binaryRatio (source.significand magnitude)
        (source.minExponent + source.raise magnitude)).1
      (binaryRatio (source.significand magnitude)
        (source.minExponent + source.raise magnitude)).2
  else target.infinityBits

theorem narrowed_le (source target : Format) (magnitude : Nat) :
    source.narrowed target magnitude ≤ target.infinityBits := by
  rw [narrowed]
  split
  · exact target.roundRatio_le_infinityBits _ _
  · exact Nat.le_refl _

theorem narrowed_zero (infinite : 0 < source.infinityBits) : source.narrowed target 0 = 0 := by
  have nothing : source.significand 0 = 0 := Nat.zero_sub _
  rw [narrowed, if_pos infinite, nothing, roundRatio]
  cases source.minExponent + source.raise 0 with
  | ofNat up => rw [binaryRatio, Nat.zero_mul, if_pos rfl]
  | negSucc down => rw [binaryRatio, if_pos rfl]

theorem narrowed_mono (normal : 0 < target.precision) {magnitude other : Nat}
    (ordered : magnitude ≤ other) :
    source.narrowed target magnitude ≤ source.narrowed target other := by
  by_cases finite : other < source.infinityBits
  · obtain ⟨positive, value⟩ := binaryRatio_eq (source.significand magnitude)
      (source.minExponent + source.raise magnitude)
    obtain ⟨positive', value'⟩ := binaryRatio_eq (source.significand other)
      (source.minExponent + source.raise other)
    rw [narrowed, narrowed, if_pos finite, if_pos (Nat.lt_of_le_of_lt ordered finite)]
    apply roundRatio_mono normal positive positive'
    rw [value, value']
    exact size_mono ordered
  · rw [narrowed, narrowed, if_neg finite]
    exact source.narrowed_le target magnitude

/-- The number of another format that is nearest to a number, by sign and magnitude. -/
theorem encode_decode (number : source.isNumber x = true) :
    target.encode (source.decode x) =
      target.signed (decide (source.signBit ≤ x))
        (source.narrowed target (source.magnitude x)) := by
  rw [isNumber, decide_eq_true_eq] at number
  rcases Nat.lt_or_eq_of_le number with finite | infinite
  · rw [decode_of_isFinite (by rw [isFinite]; exact decide_eq_true finite), narrowed,
      if_pos finite, encode]
  · have field : source.magnitude x / source.hidden = source.topField := by
      rw [infinite, infinityBits, Nat.mul_div_cancel _ source.hidden_pos]
    have fraction : source.magnitude x % source.hidden = 0 := by
      rw [infinite, infinityBits, Nat.mul_mod_left]
    have decoded : source.decode x = .infinite (decide (source.signBit ≤ x)) := by
      rw [decode]
      change (if source.magnitude x / source.hidden = source.topField then
        (if source.magnitude x % source.hidden = 0 then Decoded.infinite _ else _) else _) = _
      rw [if_pos field, if_pos fraction]
    rw [decoded, encode, narrowed, if_neg (by omega)]

/-- Narrowing keeps the order of numbers. -/
theorem encode_decode_mono (normal : 0 < target.precision) (infinite : 0 < source.infinityBits)
    (ordered : source.atMost x y = true) :
    target.atMost (target.encode (source.decode x)) (target.encode (source.decode y)) = true := by
  obtain ⟨number, number', ranks⟩ := atMost_iff.mp ordered
  have below := source.narrowed_le target (source.magnitude x)
  have below' := source.narrowed_le target (source.magnitude y)
  have inside := target.infinityBits_lt_signBit
  rw [encode_decode number, encode_decode number']
  refine atMost_iff.mpr ⟨isNumber_signed _ below, isNumber_signed _ below', ?_⟩
  rw [rank_signed _ (Nat.lt_of_le_of_lt below inside),
    rank_signed _ (Nat.lt_of_le_of_lt below' inside)]
  simp only [decide_eq_true_eq]
  have grows : Monotone fun magnitude => (source.narrowed target magnitude : Int) :=
    fun _ _ less => Int.ofNat_le.mpr (narrowed_mono normal less)
  exact signed_mono grows (by rw [narrowed_zero infinite]; rfl) ranks

/-- Narrowing keeps what is no number as it is. -/
theorem isNumber_encode_decode (wide : 0 < target.hidden / 2) :
    target.isNumber (target.encode (source.decode x)) = source.isNumber x := by
  cases number : source.isNumber x with
  | true =>
      rw [encode_decode number]
      exact isNumber_signed _ (source.narrowed_le target _)
  | false =>
      rw [isNumber, decide_eq_false_iff_not, Nat.not_le] at number
      have inside : source.magnitude x < source.signBit := Nat.mod_lt _ (Nat.two_pow_pos _)
      have whole := Nat.div_add_mod' (source.magnitude x) source.hidden
      have field : source.magnitude x / source.hidden = source.topField := by
        rw [signBit_eq] at inside
        exact Nat.div_eq_of_lt_le (Nat.le_of_lt number) inside
      have fraction : source.magnitude x % source.hidden ≠ 0 := by
        rw [field] at whole
        rw [infinityBits] at number
        omega
      have decoded : source.decode x = .notANumber (decide (source.signBit ≤ x)) := by
        rw [decode]
        change (if source.magnitude x / source.hidden = source.topField then
          (if source.magnitude x % source.hidden = 0 then _ else Decoded.notANumber _)
          else _) = _
        rw [if_pos field, if_neg fraction]
      rw [decoded, encode, isNumber, magnitude_signed _ target.notANumberBits_lt_signBit,
        notANumberBits]
      exact decide_eq_false (by omega)

end Format

/-! ## Integers -/

/-- What is integral stands for an integer, and is cut to it. -/
theorem Decoded.exists_int_of_isIntegral {decoded : Decoded}
    (integral : decoded.isIntegral = true) :
    ∃ whole : Int, decoded.value? = some (whole : ℚ) ∧
      ∀ low high, decoded.truncate low high = max low (min high whole) := by
  cases decoded with
  | notANumber negative => cases integral
  | infinite negative => cases integral
  | finite negative significand exponent =>
      obtain ⟨positive, value⟩ := binaryRatio_eq significand exponent
      rw [isIntegral, beq_iff_eq] at integral
      rw [value?, ← value]
      refine ⟨if negative then
          -(((binaryRatio significand exponent).1 /
            (binaryRatio significand exponent).2 : Nat) : Int)
        else ((binaryRatio significand exponent).1 / (binaryRatio significand exponent).2 : Nat),
        ?_, fun low high => rfl⟩
      rw [← Nat.cast_div (Nat.dvd_of_mod_eq_zero integral) (by exact_mod_cast positive.ne')]
      generalize (binaryRatio significand exponent).1 / (binaryRatio significand exponent).2 = whole
      cases negative <;> simp

/-! ## Numbers of 64 bits -/

theorem Double.pattern_toDouble (decoded : Decoded) :
    decoded.toDouble.pattern = Format.double.encode decoded :=
  Nat.mod_eq_of_lt (Format.double.encode_lt decoded)

/-- The value of a finite number. -/
def Double.value? (number : Double) : Option ℚ := (decodeDouble number).value?

theorem Double.value_le {x y : Double} (ordered : x ≤ y) {first second : ℚ}
    (firstValue : x.value? = some first) (secondValue : y.value? = some second) :
    first ≤ second :=
  Format.value_le_of_atMost ordered firstValue secondValue

theorem Double.isNumber_of_value? {x : Double} {value : ℚ} (valued : x.value? = some value) :
    x.isNumber = true := by
  have finite := Format.isFinite_of_value? valued
  rw [Format.isFinite, decide_eq_true_eq] at finite
  exact decide_eq_true (Nat.le_of_lt finite)

/-- Narrowing keeps the order of numbers. -/
theorem singleOfDouble_mono {x y : Double} (ordered : x ≤ y) :
    singleOfDouble x ≤ singleOfDouble y := by
  change Format.single.atMost _ _ = true
  rw [singleOfDouble, singleOfDouble, Single.pattern_toSingle, Single.pattern_toSingle]
  exact Format.encode_decode_mono (by decide) (by decide) ordered

theorem isNumber_singleOfDouble (x : Double) : (singleOfDouble x).isNumber = x.isNumber := by
  rw [Single.isNumber, singleOfDouble, Single.pattern_toSingle]
  exact Format.isNumber_encode_decode (by decide)

theorem pattern_doubleOfInt (value : Int) :
    (doubleOfInt value).pattern =
      Format.double.signed (decide (value < 0)) (Format.double.roundRatio value.natAbs 1) := by
  have unit : binaryRatio value.natAbs 0 = (value.natAbs, 1) := by
    change (value.natAbs * 1, 1) = _
    rw [Nat.mul_one]
  rw [doubleOfInt, Double.pattern_toDouble, decodedInt, Format.encode, unit]

theorem roundRatio_one_mono {value other : Nat} (ordered : value ≤ other) :
    Format.double.roundRatio value 1 ≤ Format.double.roundRatio other 1 := by
  apply Format.roundRatio_mono (by decide) Nat.one_pos Nat.one_pos
  rw [Nat.cast_one, div_one, div_one]
  exact_mod_cast ordered

/-- Integers keep their order as 64-bit numbers. -/
theorem doubleOfInt_mono {value other : Int} (ordered : value ≤ other) :
    doubleOfInt value ≤ doubleOfInt other := by
  have below (whole : Int) := Format.double.roundRatio_le_infinityBits whole.natAbs 1
  have inside := Format.double.infinityBits_lt_signBit
  change Format.double.atMost _ _ = true
  rw [pattern_doubleOfInt, pattern_doubleOfInt]
  refine Format.atMost_iff.mpr
    ⟨Format.isNumber_signed _ (below value), Format.isNumber_signed _ (below other), ?_⟩
  rw [Format.rank_signed _ (Nat.lt_of_le_of_lt (below value) inside),
    Format.rank_signed _ (Nat.lt_of_le_of_lt (below other) inside)]
  simp only [decide_eq_true_eq]
  split <;> split
  · have grows := roundRatio_one_mono (show other.natAbs ≤ value.natAbs by omega)
    omega
  · omega
  · omega
  · have grows := roundRatio_one_mono (show value.natAbs ≤ other.natAbs by omega)
    omega

/-- An integer of at most 53 bits is written exactly. -/
theorem value?_doubleOfInt {value : Int} (small : value.natAbs < 2 ^ 53) :
    (doubleOfInt value).value? = some (value : ℚ) := by
  have below := roundRatio_one_mono (show value.natAbs ≤ 2 ^ 53 - 1 by omega)
  have top : Format.double.roundRatio (2 ^ 53 - 1) 1 < Format.double.infinityBits := by
    decide +kernel
  have inside := Nat.lt_of_le_of_lt (Nat.le_of_lt (Nat.lt_of_le_of_lt below top))
    Format.double.infinityBits_lt_signBit
  have finite : Format.double.isFinite (doubleOfInt value).pattern = true := by
    rw [pattern_doubleOfInt, Format.isFinite, Format.magnitude_signed _ inside]
    exact decide_eq_true (Nat.lt_of_le_of_lt below top)
  have negative : Format.double.signBit ≤ (doubleOfInt value).pattern ↔ value < 0 := by
    rw [pattern_doubleOfInt, Format.signed]
    split
    · rename_i sign
      exact iff_of_true (Nat.le_add_right _ _) (of_decide_eq_true sign)
    · rename_i sign
      exact iff_of_false (by omega) fun less => sign (decide_eq_true less)
  have size : Format.double.size (Format.double.magnitude (doubleOfInt value).pattern) =
      value.natAbs := by
    rw [pattern_doubleOfInt, Format.magnitude_signed _ inside]
    exact Format.size_roundRatio_one (by decide) small (by decide) (by decide)
  rw [Double.value?, decodeDouble, Format.value?_decode finite, size]
  simp only [negative]
  split
  · rename_i less
    rw [← Int.cast_natCast, Int.ofNat_natAbs_of_nonpos less.le]
    push_cast
    rw [neg_neg]
  · rename_i positive
    rw [← Int.cast_natCast, Int.natAbs_of_nonneg (not_lt.mp positive)]

end LiveShader.Number
