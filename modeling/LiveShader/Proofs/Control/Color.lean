import LiveShader.Control.Color
import LiveShader.Proofs.Text.Cut

/-!
# Colours that can be read

A text is read as a colour exactly if it is three or six hexadecimal digits behind at most one
number sign, and a text is of the form of a colour exactly then.  The reader counts bytes, and
cuts the digits of a channel out by their bytes; since every digit is one byte, it never cuts
outside of the text or through a character.
-/

namespace LiveShader.Control.Color

open LiveShader.Text

/-! ## Hexadecimal digits -/

/-- The sixteen digits in their order. -/
def hexAlphabet : List Char :=
  ['0', '1', '2', '3', '4', '5', '6', '7', '8', '9', 'a', 'b', 'c', 'd', 'e', 'f']

/-- One of the sixteen digits, in either case. -/
def IsHex (c : Char) : Prop := c.toLower ∈ hexAlphabet

instance (c : Char) : Decidable (IsHex c) := inferInstanceAs (Decidable (_ ∈ _))

/-- The value of a digit is its place among the sixteen. -/
def hexValue (c : Char) : Nat := hexAlphabet.idxOf c.toLower

/-- The value of two digits, the higher one first. -/
def pairValue (high low : Char) : Nat := 16 * hexValue high + hexValue low

theorem hexDigit?_of_ascii : ∀ code < 128,
    Number.hexDigit? (Char.ofNat code) =
      if IsHex (Char.ofNat code) then some (hexValue (Char.ofNat code)) else none := by
  decide

/-- A character beyond the first 128 is no digit, and has no other case. -/
theorem hexDigit?_of_beyond {c : Char} (beyond : ¬ c.toNat < 128) :
    Number.hexDigit? c = none ∧ ¬ IsHex c := by
  have above : ∀ last : Char, last.toNat < 128 → ¬ c ≤ last :=
    fun last small below => beyond (Nat.lt_of_le_of_lt below small)
  have caseless : c.toLower = c := dif_neg fun upper => above 'Z' (by decide) upper.2
  constructor
  · rw [Number.hexDigit?, if_neg fun digit => above '9' (by decide) digit.2,
      if_neg fun digit => above 'f' (by decide) digit.2,
      if_neg fun digit => above 'F' (by decide) digit.2]
  · have small : ∀ digit ∈ hexAlphabet, digit.toNat < 128 := by simp [hexAlphabet]
    rw [IsHex, caseless]
    exact fun digit => beyond (small c digit)

/-- Digits are read as their place among the sixteen, and nothing else is read. -/
theorem hexDigit?_eq (c : Char) :
    Number.hexDigit? c = if IsHex c then some (hexValue c) else none := by
  by_cases ascii : c.toNat < 128
  · have checked := hexDigit?_of_ascii c.toNat ascii
    rwa [Char.ofNat_toNat] at checked
  · obtain ⟨unread, other⟩ := hexDigit?_of_beyond ascii
    rw [unread, if_neg other]

theorem isHexDigit_iff {c : Char} : isHexDigit c = true ↔ IsHex c := by
  rw [isHexDigit, hexDigit?_eq]
  split
  · rename_i hex
    exact iff_of_true rfl hex
  · rename_i other
    exact iff_of_false Bool.false_ne_true other

theorem hexValue_lt {c : Char} (hex : IsHex c) : hexValue c < 16 := List.idxOf_lt_length_of_mem hex

theorem utf8Size_of_isHex {c : Char} (hex : IsHex c) : c.utf8Size = 1 := by
  rw [Char.utf8Size_eq_one_iff, UInt32.le_iff_toNat_le]
  refine Nat.le_of_lt_succ (Decidable.not_not.mp fun beyond => ?_)
  exact (hexDigit?_of_beyond beyond).2 hex

/-- Digits are as many as their bytes. -/
theorem byteCount_of_isHex {digits : List Char} (hex : ∀ c ∈ digits, IsHex c) :
    byteCount digits = digits.length := by
  induction digits with
  | nil => rfl
  | cons c rest ih =>
      have tail := ih fun d member => hex d (List.mem_cons_of_mem c member)
      rw [byteCount, utf8Size_of_isHex (hex c List.mem_cons_self), tail, List.length_cons,
        Nat.add_comm]

/-- Two digits are read as a byte; neither of them is taken for a sign. -/
theorem readHexByte?_pair {high low : Char} (highHex : IsHex high) (lowHex : IsHex low) :
    Number.readHexByte? [high, low] = some (pairValue high low) := by
  have unsigned : high ≠ '+' := by
    rintro rfl
    revert highHex
    decide
  have small : pairValue high low < 256 := by
    have := hexValue_lt highHex
    have := hexValue_lt lowHex
    rw [pairValue]
    omega
  have spelled : Number.digitsValue? Number.hexDigit? 16 [high, low] =
      some (pairValue high low) := by
    simp [Number.digitsValue?, hexDigit?_eq, highHex, lowHex, pairValue]
  simp [Number.readHexByte?, unsigned, spelled, small]

/-! ## Reading -/

/-- The colour that three or six digits stand for; each of three digits is doubled. -/
inductive Stands : List Char → Color → Prop where
  | short (r g b : Char) :
      Stands [r, g, b] ⟨pairValue r r, pairValue g g, pairValue b b⟩
  | long (r r' g g' b b' : Char) :
      Stands [r, r', g, g', b, b'] ⟨pairValue r r', pairValue g g', pairValue b b'⟩

/-- The values of digits do not depend on their case. -/
theorem pairValue_congr {high low high' low' : Char} (highs : high.toLower = high'.toLower)
    (lows : low.toLower = low'.toLower) : pairValue high low = pairValue high' low' := by
  rw [pairValue, pairValue, hexValue, hexValue, hexValue, hexValue, highs, lows]

theorem Stands.of_caseless {found found' : List Char} {color : Color}
    (stands : Stands found color) (same : found.map Char.toLower = found'.map Char.toLower) :
    Stands found' color := by
  have count : found'.length = found.length := by
    simpa using (congrArg List.length same).symm
  cases stands with
  | short r g b =>
      match found', count, same with
      | [r', g', b'], _, same =>
          simp only [List.map_cons, List.map_nil, List.cons.injEq, and_true] at same
          obtain ⟨red, green, blue⟩ := same
          rw [pairValue_congr red red, pairValue_congr green green, pairValue_congr blue blue]
          exact .short r' g' b'
  | long r₁ r₂ g₁ g₂ b₁ b₂ =>
      match found', count, same with
      | [r₁', r₂', g₁', g₂', b₁', b₂'], _, same =>
          simp only [List.map_cons, List.map_nil, List.cons.injEq, and_true] at same
          obtain ⟨red, red', green, green', blue, blue'⟩ := same
          rw [pairValue_congr red red', pairValue_congr green green', pairValue_congr blue blue']
          exact .long r₁' r₂' g₁' g₂' b₁' b₂'

/-- Three digits stand for the same colour as the six in which each of them is doubled. -/
theorem Stands.doubled {found : List Char} {color : Color} (stands : Stands found color)
    (three : found.length = 3) : Stands (found.flatMap fun c => [c, c]) color := by
  cases stands with
  | short r g b => exact .long r r g g b b
  | long => cases three

/-- A text that is three or six hexadecimal digits, behind at most one number sign. -/
structure Spells (text : String) (found : List Char) : Prop where
  sign : text.toList = found ∨ text.toList = '#' :: found
  count : found.length = 3 ∨ found.length = 6
  hex : ∀ c ∈ found, IsHex c

/-- A digit is no number sign, so the digits of a text are what is left without one. -/
theorem Spells.digits_eq {text : String} {found : List Char} (spells : Spells text found) :
    digits text.toList = found := by
  rcases spells.sign with plain | signed
  · rw [plain, digits.eq_def]
    split
    · have hex := spells.hex '#' List.mem_cons_self
      exact absurd hex (by decide)
    · rfl
  · rw [signed, digits]

theorem spells_iff {text : String} :
    (∃ found, Spells text found) ↔
      (∀ c ∈ digits text.toList, IsHex c) ∧
        ((digits text.toList).length = 3 ∨ (digits text.toList).length = 6) := by
  constructor
  · rintro ⟨found, spells⟩
    rw [spells.digits_eq]
    exact ⟨spells.hex, spells.count⟩
  · rintro ⟨hex, count⟩
    refine ⟨digits text.toList, ?_, count, hex⟩
    rw [digits.eq_def]
    split
    · rename_i rest equal
      exact Or.inr equal
    · exact Or.inl rfl

theorem exists_stands {found : List Char} (count : found.length = 3 ∨ found.length = 6) :
    ∃ color, Stands found color := by
  rcases count with three | six
  · match found, three with
    | [r, g, b], _ => exact ⟨_, .short r g b⟩
  · match found, six with
    | [r, r', g, g', b, b'], _ => exact ⟨_, .long r r' g g' b b'⟩

/-- The channel behind some digits is that of the next two. -/
theorem readChannel_append (front : List Char) {back : List Char} {high low : Char} {index : Nat}
    (hex : ∀ c ∈ front ++ high :: low :: back, IsHex c) (place : front.length = 2 * index) :
    readChannel (front ++ high :: low :: back) index = .ok (pairValue high low) := by
  have highHex : IsHex high := hex high (by simp)
  have lowHex : IsHex low := hex low (by simp)
  have before : byteCount front = 2 * index := by
    rw [byteCount_of_isHex fun c member => hex c (List.mem_append_left _ member), place]
  have inside : byteCount [high, low] = 2 := by
    refine byteCount_of_isHex ?_
    intro c member
    exact hex c (by rcases List.mem_cons.mp member with rfl | last <;> simp_all)
  have cut := slice?_append front [high, low] back
  rw [before, inside, List.append_assoc, List.cons_append, List.cons_append,
    List.nil_append] at cut
  rw [readChannel, cut]
  dsimp only
  rw [readHexByte?_pair highHex lowHex]

/-- Six digits are read as their three pairs. -/
theorem readChannels_eq {r r' g g' b b' : Char}
    (hex : ∀ c ∈ [r, r', g, g', b, b'], IsHex c) :
    readChannels [r, r', g, g', b, b'] =
      .ok ⟨pairValue r r', pairValue g g', pairValue b b'⟩ := by
  have red : readChannel [r, r', g, g', b, b'] 0 = .ok (pairValue r r') :=
    readChannel_append [] hex rfl
  have green : readChannel [r, r', g, g', b, b'] 1 = .ok (pairValue g g') :=
    readChannel_append [r, r'] hex rfl
  have blue : readChannel [r, r', g, g', b, b'] 2 = .ok (pairValue b b') :=
    readChannel_append [r, r', g, g'] hex rfl
  rw [readChannels, red, green, blue]
  rfl

/-- A text that spells a colour is read as that colour. -/
theorem Spells.read_eq {text : String} {found : List Char} {color : Color}
    (spells : Spells text found) (stands : Stands found color) : read text = .ok color := by
  have all : found.all isHexDigit = true := by
    rw [List.all_eq_true]
    exact fun c member => isHexDigit_iff.mpr (spells.hex c member)
  have bytes := byteCount_of_isHex spells.hex
  rw [read, spells.digits_eq, if_pos all, expand?, bytes]
  cases stands with
  | short r g b =>
      refine readChannels_eq ?_
      intro c member
      exact spells.hex c (by simp_all)
  | long r r' g g' b b' => exact readChannels_eq spells.hex

/-- Any other text is refused, before anything is cut out of it. -/
theorem read_of_not_spells {text : String} (other : ¬ ∃ found, Spells text found) :
    read text = .error .notColor := by
  rw [spells_iff, not_and, not_or] at other
  rw [read]
  split
  · rename_i all
    have hex : ∀ c ∈ digits text.toList, IsHex c := fun c member =>
      isHexDigit_iff.mp (List.all_eq_true.mp all c member)
    obtain ⟨notThree, notSix⟩ := other hex
    rw [expand?, byteCount_of_isHex hex]
    split
    · rfl
    · rename_i expanded equal
      split at equal
      · rename_i three
        exact absurd three notThree
      · rename_i six
        exact absurd six notSix
      · cases equal
  · rfl

/-- A text is of the form of a colour exactly if it spells one. -/
theorem isWellFormed_iff {text : String} :
    isWellFormed text = true ↔ ∃ found, Spells text found := by
  have all : (digits text.toList).all isHexDigit = true ↔ ∀ c ∈ digits text.toList, IsHex c := by
    rw [List.all_eq_true]
    exact forall₂_congr fun c _ => isHexDigit_iff
  rw [isWellFormed, Bool.and_eq_true, Bool.or_eq_true, beq_iff_eq, beq_iff_eq, all, spells_iff,
    and_comm]
  refine and_congr_right fun hex => ?_
  rw [byteCount_of_isHex hex]

theorem parse?_eq_some_iff {text : String} {color : Color} :
    parse? text = some color ↔ ∃ found, Spells text found ∧ Stands found color := by
  by_cases spelled : ∃ found, Spells text found
  · obtain ⟨found, spells⟩ := spelled
    obtain ⟨colour, stands⟩ := exists_stands spells.count
    rw [parse?, spells.read_eq stands]
    constructor
    · rintro ⟨⟩
      exact ⟨found, spells, stands⟩
    · rintro ⟨found', spells', stands'⟩
      have same := (spells.read_eq stands).symm.trans (spells'.read_eq stands')
      cases same
      rfl
  · rw [parse?, read_of_not_spells spelled]
    constructor
    · rintro ⟨⟩
    · rintro ⟨found, spells, _⟩
      exact absurd ⟨found, spells⟩ spelled

/-- A text of the form of a colour can be read as one. -/
theorem exists_of_isWellFormed {text : String} (wellFormed : isWellFormed text = true) :
    ∃ color, parse? text = some color := by
  obtain ⟨found, spells⟩ := isWellFormed_iff.mp wellFormed
  obtain ⟨color, stands⟩ := exists_stands spells.count
  exact ⟨color, parse?_eq_some_iff.mpr ⟨found, spells, stands⟩⟩

/-! ## Both readings of a text -/

/--
The check of a text and its reading agree on every text.  A text has the form of a colour
exactly if it is read as one, which is exactly if it is three or six hexadecimal digits behind
at most one number sign; and nothing is ever cut out of a text where it has no such part.  The
colour is then the one that the digits stand for, whatever their case and with or without the
sign, and three digits are read like the six in which each of them is doubled.
-/
theorem read_agrees (text : String) :
    (isWellFormed text = true ↔ (parse? text).isSome = true) ∧
      ((parse? text).isSome = true ↔ ∃ found, Spells text found) ∧
      read text ≠ .error .badSlice ∧
      (∀ found, Spells text found → ∃ color, Stands found color ∧ parse? text = some color ∧
        color.channels =
          (Number.singleOfInt color.red / Number.singleOfInt 255,
            Number.singleOfInt color.green / Number.singleOfInt 255,
            Number.singleOfInt color.blue / Number.singleOfInt 255)) ∧
      (∀ other found found', Spells text found → Spells other found' →
        found.map Char.toLower = found'.map Char.toLower → parse? other = parse? text) ∧
      ∀ other found, Spells text found → found.length = 3 →
        Spells other (found.flatMap fun c => [c, c]) → parse? other = parse? text := by
  have parsed_iff : (parse? text).isSome = true ↔ ∃ found, Spells text found := by
    rw [Option.isSome_iff_exists]
    constructor
    · rintro ⟨color, parsed⟩
      obtain ⟨found, spells, _⟩ := parse?_eq_some_iff.mp parsed
      exact ⟨found, spells⟩
    · rintro spelled
      exact exists_of_isWellFormed (isWellFormed_iff.mpr spelled)
  have parsed {source : String} {digits : List Char} {color : Color}
      (spells : Spells source digits) (stands : Stands digits color) :
      parse? source = some color := parse?_eq_some_iff.mpr ⟨digits, spells, stands⟩
  refine ⟨isWellFormed_iff.trans parsed_iff.symm, parsed_iff, ?_, ?_, ?_, ?_⟩
  · by_cases spelled : ∃ found, Spells text found
    · obtain ⟨found, spells⟩ := spelled
      obtain ⟨color, stands⟩ := exists_stands spells.count
      rw [spells.read_eq stands]
      rintro ⟨⟩
    · rw [read_of_not_spells spelled]
      rintro ⟨⟩
  · intro found spells
    obtain ⟨color, stands⟩ := exists_stands spells.count
    exact ⟨color, stands, parsed spells stands, rfl⟩
  · intro other found found' spells spells' same
    obtain ⟨color, stands⟩ := exists_stands spells.count
    rw [parsed spells stands, parsed spells' (stands.of_caseless same)]
  · intro other found spells three spells'
    obtain ⟨color, stands⟩ := exists_stands spells.count
    rw [parsed spells stands, parsed spells' (stands.doubled three)]

/-- Orange is read alike from three digits and from six, in either case. -/
theorem read_agrees_orange :
    Spells "#f80" ['f', '8', '0'] ∧ Spells "ff8800" ['f', 'f', '8', '8', '0', '0'] ∧
      Spells "#FF8800" ['F', 'F', '8', '8', '0', '0'] ∧
      (∃ color, Stands ['f', '8', '0'] color ∧ parse? "#f80" = some color) ∧
      parse? "ff8800" = parse? "#f80" ∧ parse? "#FF8800" = parse? "ff8800" := by
  have short : Spells "#f80" ['f', '8', '0'] :=
    ⟨Or.inr rfl, by decide, by simp [IsHex, hexAlphabet]⟩
  have long : Spells "ff8800" ['f', 'f', '8', '8', '0', '0'] :=
    ⟨Or.inl rfl, by decide, by simp [IsHex, hexAlphabet]⟩
  have upper : Spells "#FF8800" ['F', 'F', '8', '8', '0', '0'] :=
    ⟨Or.inr rfl, by decide, by simp [IsHex, hexAlphabet]⟩
  obtain ⟨color, stands, parsed, _⟩ := (read_agrees "#f80").2.2.2.1 _ short
  exact ⟨short, long, upper, ⟨color, stands, parsed⟩,
    (read_agrees "#f80").2.2.2.2.2 "ff8800" _ short rfl long,
    (read_agrees "ff8800").2.2.2.2.1 "#FF8800" _ _ long upper (by decide)⟩

/-- A sign is no digit, although the reader of a byte accepts one. -/
example : Number.readHexByte? ['+', '1'] = some 1 ∧ parse? "+1+2+3" = none := by decide

end LiveShader.Control.Color
