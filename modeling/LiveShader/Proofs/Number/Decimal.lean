import LiveShader.Number.Reading

/-!
# Decimal numerals

A number written in decimal is read back as itself.
-/

namespace LiveShader.Number

theorem decimalDigit?_of_isDigit {c : Char} (digit : c.isDigit = true) :
    decimalDigit? c = some (c.toNat - '0'.toNat) := by
  rw [decimalDigit?]
  rw [if_pos]
  simpa [Char.isDigit, Char.le_def] using digit

theorem digitsValue?_decimal {digits : List Char} (all : ∀ c ∈ digits, c.isDigit = true) :
    digitsValue? decimalDigit? 10 digits = some (Nat.ofDigitChars 10 digits 0) := by
  suffices general : ∀ start, digits.foldlM
      (fun value c => (decimalDigit? c).map (10 * value + ·)) start =
        some (Nat.ofDigitChars 10 digits start) from general 0
  induction digits with
  | nil =>
      intro start
      rfl
  | cons c digits ih =>
      intro start
      have first : c.isDigit = true := all c List.mem_cons_self
      have rest := ih fun other member => all other (List.mem_cons_of_mem c member)
      rw [List.foldlM_cons, decimalDigit?_of_isDigit first, Nat.ofDigitChars_cons]
      exact rest _

theorem natOfDigits?_toDigits (n : Nat) : natOfDigits? (Nat.toDigits 10 n) = some n := by
  have all : ∀ c ∈ Nat.toDigits 10 n, c.isDigit = true := by
    intro c member
    exact Nat.isDigit_of_mem_toDigits (by decide) (by decide) member
  have full : (Nat.toDigits 10 n).isEmpty = false := by
    simp [Nat.toDigits_ne_nil]
  rw [natOfDigits?]
  rw [full, digitsValue?_decimal all, Nat.ofDigitChars_ten_toDigits]
  rfl

theorem head_toDigits_ne_plus (n : Nat) (rest : List Char) :
    Nat.toDigits 10 n ≠ '+' :: rest := by
  intro equal
  have member : '+' ∈ Nat.toDigits 10 n := by simp [equal]
  have digit : '+'.isDigit = true :=
    Nat.isDigit_of_mem_toDigits (by decide) (by decide) member
  cases digit

/-- Reads an unsigned decimal integer of any size; a plus sign may stand in front. -/
def readNat? (text : List Char) : Option Nat :=
  natOfDigits? (match text with
    | '+' :: rest => rest
    | _ => text)

theorem readUInt32?_eq (text : List Char) :
    readUInt32? text = (readNat? text).filter (· < 4294967296) := by
  have opened : readUInt32? text =
      (readNat? text).bind fun value => if value < 4294967296 then some value else none := rfl
  rw [opened]
  cases readNat? text with
  | none => rfl
  | some value => simp [Option.filter]

/-- A 32-bit number that is read fits into 32 bits. -/
theorem lt_of_readUInt32? {text : List Char} {value : Nat}
    (read : readUInt32? text = some value) : value < 4294967296 := by
  rw [readUInt32?_eq, Option.filter_eq_some_iff] at read
  exact of_decide_eq_true read.2

theorem readNat?_toDigits (n : Nat) : readNat? (Nat.toDigits 10 n) = some n := by
  have value := natOfDigits?_toDigits n
  have unsigned := head_toDigits_ne_plus n
  generalize Nat.toDigits 10 n = digits at value unsigned ⊢
  unfold readNat?
  split
  · exact absurd rfl (unsigned _)
  · exact value

/-- A 32-bit number is read back from its numeral. -/
theorem readUInt32?_toDigits {n : Nat} (small : n < 4294967296) :
    readUInt32? (Nat.toDigits 10 n) = some n := by
  rw [readUInt32?_eq, readNat?_toDigits]
  simp [small]

end LiveShader.Number
