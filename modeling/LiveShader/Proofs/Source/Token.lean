import LiveShader.Proofs.Source.Name
import LiveShader.Proofs.Text.Blank
import LiveShader.Proofs.Text.Cut

/-!
# Tokens

The tokens of a text are its words and its marks.  Blanks keep words apart and are not
tokens themselves, so a text can be read token by token from either side of a blank or
a mark.
-/

namespace LiveShader.Source

open LiveShader.Text

/-- A longest run of name characters, or any other character by itself. -/
inductive Token where
  | word (letters : List Char)
  | mark (c : Char)
  deriving DecidableEq

/-- Whether a text begins with a name character. -/
def startsWord : List Char → Bool
  | [] => false
  | c :: _ => isNameChar c

/-- The tokens of a text.  Blanks only keep words apart. -/
def tokens : List Char → List Token
  | [] => []
  | c :: rest =>
      if isNameChar c then
        match startsWord rest, tokens rest with
        | true, .word letters :: others => .word (c :: letters) :: others
        | _, others => .word [c] :: others
      else if isBlank c then tokens rest
      else .mark c :: tokens rest

variable {text rest gap letters : List Char} {c : Char}

theorem isNameChar_of_isBlank (blank : isBlank c = true) : isNameChar c = false := by
  rw [Bool.eq_false_iff]
  intro named
  rw [isBlank_of_isNameChar named] at blank
  cases blank

theorem tokens_word (rest : List Char) (full : letters ≠ [])
    (named : ∀ c ∈ letters, isNameChar c = true) (ends : startsWord rest = false) :
    tokens (letters ++ rest) = .word letters :: tokens rest := by
  induction letters with
  | nil => exact absurd rfl full
  | cons c letters ih =>
      have first : isNameChar c = true := named c List.mem_cons_self
      cases letters with
      | nil => simp [tokens, first, ends]
      | cons d letters =>
          have second : isNameChar d = true :=
            named d (List.mem_cons_of_mem c List.mem_cons_self)
          have below := ih (by simp) fun other member =>
            named other (List.mem_cons_of_mem c member)
          rw [List.cons_append, tokens, if_pos first, below]
          simp [startsWord, second]

theorem tokens_mark (unnamed : isNameChar c = false) (solid : isBlank c = false)
    (rest : List Char) : tokens (c :: rest) = .mark c :: tokens rest := by
  simp [tokens, unnamed, solid]

theorem tokens_blank (blank : isBlank c = true) (rest : List Char) :
    tokens (c :: rest) = tokens rest := by
  simp [tokens, isNameChar_of_isBlank blank, blank]

theorem tokens_blanks (blanks : Blanks gap) (rest : List Char) :
    tokens (gap ++ rest) = tokens rest := by
  induction gap with
  | nil => rfl
  | cons c gap ih =>
      rw [List.cons_append, tokens_blank (blanks c List.mem_cons_self)]
      exact ih fun other member => blanks other (List.mem_cons_of_mem c member)

/-! ## Reading the first token -/

/-- How a text begins, with its tokens: it is blank, or its first token stands behind blanks. -/
inductive Opening : List Char → List Token → Prop where
  | blank {text : List Char} (blanks : Blanks text) : Opening text []
  | word {gap letters rest : List Char} (blanks : Blanks gap) (full : letters ≠ [])
      (named : ∀ c ∈ letters, isNameChar c = true) (ends : startsWord rest = false) :
      Opening (gap ++ (letters ++ rest)) (.word letters :: tokens rest)
  | mark {gap rest : List Char} {c : Char} (blanks : Blanks gap) (unnamed : isNameChar c = false)
      (solid : isBlank c = false) : Opening (gap ++ c :: rest) (.mark c :: tokens rest)

theorem startsWord_dropWhile (text : List Char) :
    startsWord (text.dropWhile isNameChar) = false := by
  induction text with
  | nil => rfl
  | cons c text ih =>
      by_cases named : isNameChar c = true
      · rw [List.dropWhile_cons_of_pos named]
        exact ih
      · rw [List.dropWhile_cons_of_neg named]
        exact Bool.eq_false_iff.mpr named

theorem opening (text : List Char) : Opening text (tokens text) := by
  induction text with
  | nil => exact .blank blanks_nil
  | cons c text ih =>
      by_cases blank : isBlank c = true
      · rw [tokens_blank blank]
        generalize tokens text = ts at ih
        cases ih with
        | blank blanks => exact .blank (blanks.cons blank)
        | word blanks full named ends => exact .word (blanks.cons blank) full named ends
        | mark blanks unnamed solid => exact .mark (blanks.cons blank) unnamed solid
      · by_cases named : isNameChar c = true
        · have whole := List.takeWhile_append_dropWhile (p := isNameChar) (l := c :: text)
          have full : (c :: text).takeWhile isNameChar ≠ [] := by
            rw [List.takeWhile_cons_of_pos named]
            exact List.cons_ne_nil _ _
          have letters : ∀ d ∈ (c :: text).takeWhile isNameChar, isNameChar d = true :=
            List.all_eq_true.mp List.all_takeWhile
          have ends := startsWord_dropWhile (c :: text)
          rw [← whole, tokens_word _ full letters ends]
          exact .word blanks_nil full letters ends
        · have unnamed := Bool.eq_false_iff.mpr named
          have solid := Bool.eq_false_iff.mpr blank
          rw [tokens_mark unnamed solid]
          exact .mark blanks_nil unnamed solid

theorem tokens_eq_nil_iff : tokens text = [] ↔ Blanks text := by
  constructor
  · intro read
    have opened := opening text
    rw [read] at opened
    cases opened with
    | blank blanks => exact blanks
  · intro blanks
    have read := tokens_blanks blanks []
    rwa [List.append_nil] at read

/-- The first token is a word: it stands behind blanks and ends where its letters end. -/
theorem word_of_tokens {others : List Token} (read : tokens text = .word letters :: others) :
    ∃ gap rest, text = gap ++ (letters ++ rest) ∧ Blanks gap ∧ letters ≠ [] ∧
      (∀ c ∈ letters, isNameChar c = true) ∧ startsWord rest = false ∧ tokens rest = others := by
  have opened := opening text
  rw [read] at opened
  cases opened with
  | word blanks full named ends => exact ⟨_, _, rfl, blanks, full, named, ends, rfl⟩

/-- The first token is a mark: it stands behind blanks. -/
theorem mark_of_tokens {others : List Token} (read : tokens text = .mark c :: others) :
    ∃ gap rest, text = gap ++ c :: rest ∧ Blanks gap ∧ isNameChar c = false ∧
      isBlank c = false ∧ tokens rest = others := by
  have opened := opening text
  rw [read] at opened
  cases opened with
  | mark blanks unnamed solid => exact ⟨_, _, rfl, blanks, unnamed, solid, rfl⟩

/-- The last token is a mark: only blanks stand behind it. -/
theorem last_of_tokens {front : List Token} (read : tokens text = front ++ [.mark c]) :
    ∃ inner back, text = inner ++ c :: back ∧ Blanks back ∧ tokens inner = front := by
  induction front generalizing text with
  | nil =>
      obtain ⟨gap, rest, rfl, blanks, _, _, bare⟩ := mark_of_tokens read
      exact ⟨gap, rest, rfl, tokens_eq_nil_iff.mp bare, tokens_eq_nil_iff.mpr blanks⟩
  | cons token front ih =>
      cases token with
      | word letters =>
          obtain ⟨gap, rest, rfl, blanks, full, named, ends, below⟩ := word_of_tokens read
          obtain ⟨inner, back, rfl, blanks', behind⟩ := ih below
          refine ⟨gap ++ (letters ++ inner), back, by simp, blanks', ?_⟩
          have ends' : startsWord inner = false := by
            cases inner with
            | nil => rfl
            | cons d inner => exact ends
          rw [tokens_blanks blanks, tokens_word inner full named ends', behind]
      | mark d =>
          obtain ⟨gap, rest, rfl, blanks, unnamed, solid, below⟩ := mark_of_tokens read
          obtain ⟨inner, back, rfl, blanks', behind⟩ := ih below
          refine ⟨gap ++ d :: inner, back, by simp, blanks', ?_⟩
          rw [tokens_blanks blanks, tokens_mark unnamed solid, behind]

/-- Two words that follow each other have a blank between them. -/
theorem cutOn?_of_tokens {other : List Char} {others : List Token} (bare : trimStart text = text)
    (read : tokens text = .word letters :: .word other :: others) :
    ∃ rest, cutOn? isBlank text = some (letters, rest) ∧ tokens rest = .word other :: others := by
  obtain ⟨gap, rest, rfl, blanks, full, named, ends, below⟩ := word_of_tokens read
  have solid : ∀ c ∈ letters, isBlank c = false :=
    fun c member => isBlank_of_isNameChar (named c member)
  have front : gap = [] := by
    cases gap with
    | nil => rfl
    | cons c gap =>
        rw [trimStart_append_left blanks] at bare
        have lengths := congrArg List.length bare
        have shorter := (List.dropWhile_suffix isBlank (l := letters ++ rest)).length_le
        rw [← trimStart, bare] at shorter
        simp only [List.length_append, List.length_cons] at shorter
        omega
  subst front
  cases rest with
  | nil => cases below
  | cons c rest =>
      by_cases blank : isBlank c = true
      · rw [tokens_blank blank] at below
        refine ⟨rest, cutOn?_eq_some_iff.mpr ⟨c, rfl, blank, solid⟩, below⟩
      · have unnamed : isNameChar c = false := ends
        rw [tokens_mark unnamed (Bool.eq_false_iff.mpr blank)] at below
        cases below

theorem startsWord_tokens (starts : startsWord text = true) :
    ∃ letters others, tokens text = .word letters :: others := by
  cases text with
  | nil => cases starts
  | cons c rest =>
      have named : isNameChar c = true := starts
      rw [tokens, if_pos named]
      split
      · exact ⟨_, _, rfl⟩
      · exact ⟨_, _, rfl⟩

/-- Tokens of two texts that meet at a blank or a mark. -/
theorem tokens_append (text : List Char) (ends : startsWord rest = false) :
    tokens (text ++ rest) = tokens text ++ tokens rest := by
  induction text with
  | nil => rfl
  | cons c text ih =>
      rw [List.cons_append, tokens, tokens, ih]
      by_cases named : isNameChar c = true
      · rw [if_pos named, if_pos named]
        cases text with
        | nil =>
            rw [List.nil_append, ends]
            rfl
        | cons d text =>
            cases starts : startsWord (d :: text) with
            | false =>
                change startsWord (d :: (text ++ rest)) = false at starts
                rw [List.cons_append, starts]
                rfl
            | true =>
                obtain ⟨letters, others, read⟩ := startsWord_tokens starts
                change startsWord (d :: (text ++ rest)) = true at starts
                rw [List.cons_append, starts, read]
                rfl
      · rw [if_neg named, if_neg named]
        split
        · rfl
        · rfl

theorem startsWord_of_blanks (blanks : Blanks text) : startsWord text = false := by
  cases text with
  | nil => rfl
  | cons c text => exact isNameChar_of_isBlank (blanks c List.mem_cons_self)

theorem tokens_trimStart (text : List Char) : tokens (trimStart text) = tokens text := by
  obtain ⟨front, blanks, equal⟩ := exists_trimStart text
  calc
    tokens (trimStart text) = tokens (front ++ trimStart text) := (tokens_blanks blanks _).symm
    _ = tokens text := by rw [← equal]

/-- Blanks around a text add no token. -/
theorem tokens_trim (text : List Char) : tokens (trim text) = tokens text := by
  obtain ⟨front, back, blanks₁, blanks₂, equal⟩ := exists_trim text
  have bare : tokens back = [] := tokens_eq_nil_iff.mpr blanks₂
  calc
    tokens (trim text) = tokens (trim text ++ back) := by
      rw [tokens_append _ (startsWord_of_blanks blanks₂), bare, List.append_nil]
    _ = tokens (front ++ (trim text ++ back)) := (tokens_blanks blanks₁ _).symm
    _ = tokens text := by rw [← equal]

theorem mem_of_mark_mem_tokens (member : .mark c ∈ tokens text) : c ∈ text := by
  induction text with
  | nil => cases member
  | cons d text ih =>
      rw [tokens] at member
      split at member
      · split at member
        · rename_i read
          rcases List.mem_cons.mp member with equal | later
          · cases equal
          · apply List.mem_cons_of_mem d
            apply ih
            rw [read]
            exact List.mem_cons_of_mem _ later
        · rcases List.mem_cons.mp member with equal | later
          · cases equal
          · exact List.mem_cons_of_mem d (ih later)
      · split at member
        · exact List.mem_cons_of_mem d (ih member)
        · rcases List.mem_cons.mp member with equal | later
          · cases equal
            exact List.mem_cons_self
          · exact List.mem_cons_of_mem d (ih later)

/-! ## Braces -/

/-- What a token adds to the depth of what follows it. -/
def Token.rise : Token → Int
  | .mark '\x7b' => 1
  | .mark '\x7d' => -1
  | _ => 0

/-- Opening braces less closing ones. -/
def rise : List Token → Int
  | [] => 0
  | token :: others => token.rise + rise others

theorem rise_append (first second : List Token) :
    rise (first ++ second) = rise first + rise second := by
  induction first with
  | nil => exact (Int.zero_add _).symm
  | cons token first ih => rw [List.cons_append, rise, rise, ih, Int.add_assoc]

theorem rise_word (letters : List Char) (others : List Token) :
    rise (.word letters :: others) = rise others :=
  Int.zero_add _

theorem rise_mark (c : Char) (others : List Token) :
    rise (.mark c :: others) =
      (if c = '\x7b' then 1 else if c = '\x7d' then -1 else 0) + rise others := by
  rw [rise, Token.rise.eq_def]
  split
  · rename_i equal
    cases equal
    rfl
  · rename_i equal
    cases equal
    rfl
  · rename_i opens closes
    have open' : c ≠ '\x7b' := fun equal => opens (congrArg Token.mark equal)
    have close' : c ≠ '\x7d' := fun equal => closes (congrArg Token.mark equal)
    rw [if_neg open', if_neg close']

theorem rise_tokens (text : List Char) : rise (tokens text) = braceBalance text := by
  induction text with
  | nil => rfl
  | cons c text ih =>
      have plain : ∀ d : Char, isNameChar d = true ∨ isBlank d = true →
          (if d = '\x7b' then (1 : Int) else if d = '\x7d' then -1 else 0) = 0 := by
        intro d known
        rw [if_neg, if_neg]
        · rintro rfl
          revert known
          decide
        · rintro rfl
          revert known
          decide
      rw [tokens, braceBalance]
      by_cases named : isNameChar c = true
      · rw [if_pos named, plain c (Or.inl named), Int.zero_add, ← ih]
        split
        · rename_i read
          rw [read, rise_word, rise_word]
        · rw [rise_word]
      · rw [if_neg named]
        by_cases blank : isBlank c = true
        · rw [if_pos blank, plain c (Or.inr blank), Int.zero_add, ih]
        · rw [if_neg blank, rise_mark, ih]

end LiveShader.Source
