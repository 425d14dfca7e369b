import LiveShader.Proofs.Text.Lines
import LiveShader.Source.Comment

/-!
# Comments of a text and of its lines

A reader of a whole text goes character by character and knows whether it is in code, in
a line comment or in a block comment.  Stripping goes line by line and jumps from mark to
mark.  One step of the reader is one step of the stripping, so both leave the same code
on every line.
-/

namespace LiveShader.Source.Comment

open LiveShader.Text

/-- Where the reader of a text stands. -/
inductive Place where
  | code
  | lineComment
  | blockComment
  deriving DecidableEq

/-- A text with blanks in place of its comments.  The line feeds stay. -/
def uncommented : Place → List Char → List Char
  | _, [] => []
  | .code, '/' :: '/' :: rest => uncommented .lineComment rest
  | .code, '/' :: '*' :: rest => uncommented .blockComment rest
  | .code, c :: rest => c :: uncommented .code rest
  | .lineComment, '\n' :: rest => '\n' :: uncommented .code rest
  | .lineComment, _ :: rest => uncommented .lineComment rest
  | .blockComment, '*' :: '/' :: rest => ' ' :: uncommented .code rest
  | .blockComment, '\n' :: rest => '\n' :: uncommented .blockComment rest
  | .blockComment, _ :: rest => uncommented .blockComment rest

/-- Where a line begins, given whether a block comment is open. -/
def Place.ofOpen : Bool → Place
  | false => .code
  | true => .blockComment

variable {c : Char} {text rest tail : List Char}

/-! ## One step of the stripping -/

/-- The rest of a line cannot be read as the beginning of a comment. -/
structure Unmarked (text : List Char) : Prop where
  line : after? lineMark text = none
  block : after? openMark text = none

theorem cutAt?_cons {mark : List Char} (unmarked : after? mark (c :: text) = none) :
    cutAt? mark (c :: text) = (cutAt? mark text).map fun parts => (c :: parts.1, parts.2) := by
  rw [cutAt?, unmarked]

theorem cutAt?_of_after? {mark : List Char} (marked : after? mark (c :: text) = some rest) :
    cutAt? mark (c :: text) = some ([], rest) := by
  rw [cutAt?, marked]

theorem strip_line (rest : List Char) : strip false ('/' :: '/' :: rest) = ⟨[], false⟩ := by
  have marked : cutAt? lineMark ('/' :: '/' :: rest) = some ([], rest) :=
    cutAt?_of_after? rfl
  have apart : after? openMark ('/' :: '/' :: rest) = none := rfl
  rw [strip, if_neg Bool.false_ne_true, marked, cutAt?_cons apart]
  cases cutAt? openMark ('/' :: rest) with
  | none => rfl
  | some parts => rfl

theorem strip_opening (rest : List Char) :
    strip false ('/' :: '*' :: rest) = strip true rest := by
  have marked : cutAt? openMark ('/' :: '*' :: rest) = some ([], rest) := cutAt?_of_after? rfl
  have apart : after? lineMark ('/' :: '*' :: rest) = none := rfl
  rw [strip, if_neg Bool.false_ne_true, marked, cutAt?_cons apart]
  cases cutAt? lineMark ('*' :: rest) with
  | none => rfl
  | some parts => rfl

theorem strip_code (unmarked : Unmarked (c :: text)) :
    strip false (c :: text) = ⟨c :: (strip false text).code, (strip false text).isOpen⟩ := by
  rw [strip, strip.eq_def false text, if_neg Bool.false_ne_true, if_neg Bool.false_ne_true,
    cutAt?_cons unmarked.line, cutAt?_cons unmarked.block]
  cases cutAt? lineMark text with
  | none =>
      cases cutAt? openMark text with
      | none => rfl
      | some opened => rfl
  | some cut =>
      cases cutAt? openMark text with
      | none => rfl
      | some opened =>
          dsimp only [Option.map_some]
          rw [List.length_cons, List.length_cons]
          -- one more character in front leaves the order of the two marks as it is
          by_cases first : cut.1.length < opened.1.length
          · rw [if_pos first, if_pos (Nat.succ_lt_succ first)]
          · rw [if_neg first, if_neg fun less => first (Nat.lt_of_succ_lt_succ less)]
            rfl

theorem strip_closing (rest : List Char) :
    strip true ('*' :: '/' :: rest) =
      ⟨' ' :: (strip false rest).code, (strip false rest).isOpen⟩ := by
  have marked : cutAt? closeMark ('*' :: '/' :: rest) = some ([], rest) := cutAt?_of_after? rfl
  rw [strip, if_pos rfl, marked]

theorem strip_inside (unmarked : after? closeMark (c :: text) = none) :
    strip true (c :: text) = strip true text := by
  rw [strip, strip.eq_def true text, if_pos rfl, if_pos rfl, cutAt?_cons unmarked]
  cases cutAt? closeMark text with
  | none => rfl
  | some parts => rfl

theorem strip_nil (isOpen : Bool) : strip isOpen [] = ⟨[], isOpen⟩ := by
  cases isOpen with
  | false => rw [strip]; rfl
  | true => rw [strip]; rfl

/-- Induction along the steps of the stripping. -/
theorem steps {motive : Bool → List Char → Prop}
    (nil : ∀ isOpen, motive isOpen [])
    (line : ∀ rest, motive false ('/' :: '/' :: rest))
    (opening : ∀ rest, motive true rest → motive false ('/' :: '*' :: rest))
    (code : ∀ c rest, Unmarked (c :: rest) → motive false rest → motive false (c :: rest))
    (closing : ∀ rest, motive false rest → motive true ('*' :: '/' :: rest))
    (inside : ∀ c rest, after? closeMark (c :: rest) = none →
      motive true rest → motive true (c :: rest))
    (isOpen : Bool) (text : List Char) : motive isOpen text := by
  cases text with
  | nil => exact nil isOpen
  | cons c text =>
      cases isOpen with
      | false =>
          cases lined : after? lineMark (c :: text) with
          | some rest =>
              rw [after?_eq_some_iff.mp lined]
              exact line rest
          | none =>
              cases opened : after? openMark (c :: text) with
              | some rest =>
                  have shorter := length_after? opened
                  rw [after?_eq_some_iff.mp opened]
                  exact opening rest (steps nil line opening code closing inside true rest)
              | none =>
                  exact code c text ⟨lined, opened⟩
                    (steps nil line opening code closing inside false text)
      | true =>
          cases closed : after? closeMark (c :: text) with
          | some rest =>
              have shorter := length_after? closed
              rw [after?_eq_some_iff.mp closed]
              exact closing rest (steps nil line opening code closing inside false rest)
          | none =>
              exact inside c text closed (steps nil line opening code closing inside true text)
-- a mark takes two characters, so the recursion is not along the list
termination_by text.length
decreasing_by
  all_goals
    simp only [openMark, closeMark, List.length_cons, List.length_nil] at *
    omega

/-! ## Lines of a text -/

/-- The end of a line: the end of its text or a line feed. -/
def LineEnd (ending : List Char) : Prop := ∀ c ∈ ending.head?, c = '\n'

/-- A text that cannot complete a mark before it. -/
def Neutral (tail : List Char) : Prop := ∀ c ∈ tail.head?, c ≠ '/' ∧ c ≠ '*'

theorem LineEnd.neutral {ending : List Char} (ends : LineEnd ending) : Neutral ending := by
  intro c first
  rw [ends c first]
  decide

theorem neutral_of_blanks (blanks : Blanks tail) : Neutral tail := by
  intro c first
  have blank : isBlank c = true := blanks c (List.mem_of_mem_head? first)
  constructor
  · rintro rfl
    cases blank
  · rintro rfl
    cases blank

theorem after?_neutral {mark : List Char} (known : mark ∈ [lineMark, openMark, closeMark])
    (neutral : Neutral tail) (unmarked : after? mark text = none) :
    after? mark (text ++ tail) = none := by
  have marks : ∀ c ∈ mark, c = '/' ∨ c = '*' := by
    simp only [List.mem_cons, List.not_mem_nil, or_false] at known
    rcases known with rfl | rfl | rfl <;> simp [lineMark, openMark, closeMark]
  have apart : ∀ c ∈ tail.head?, c ∉ mark := by
    intro c first inside
    rcases marks c inside with slash | star
    · exact (neutral c first).1 slash
    · exact (neutral c first).2 star
  rw [after?_append_of_apart apart, unmarked]
  rfl

theorem Unmarked.append (unmarked : Unmarked text) (neutral : Neutral tail) :
    Unmarked (text ++ tail) := by
  constructor
  · exact after?_neutral (by simp) neutral unmarked.line
  · exact after?_neutral (by simp) neutral unmarked.block

theorem uncommented_code (unmarked : Unmarked (c :: rest)) :
    uncommented .code (c :: rest) = c :: uncommented .code rest := by
  rw [uncommented]
  · rintro other rfl rfl
    cases unmarked.line
  · rintro other rfl rfl
    cases unmarked.block

theorem uncommented_inside (unmarked : after? closeMark (c :: rest) = none) (solid : c ≠ '\n') :
    uncommented .blockComment (c :: rest) = uncommented .blockComment rest := by
  rw [uncommented]
  · rintro other rfl rfl
    cases unmarked
  · exact solid

theorem uncommented_feed (isOpen : Bool) (rest : List Char) :
    uncommented (.ofOpen isOpen) ('\n' :: rest) = '\n' :: uncommented (.ofOpen isOpen) rest := by
  cases isOpen with
  | false => exact uncommented_code ⟨rfl, rfl⟩
  | true =>
      change uncommented .blockComment ('\n' :: rest) = '\n' :: uncommented .blockComment rest
      rw [uncommented]

theorem uncommented_lineComment {ending : List Char} (single : '\n' ∉ text)
    (ends : LineEnd ending) :
    uncommented .lineComment (text ++ ending) = uncommented .code ending := by
  induction text with
  | nil =>
      cases ending with
      | nil => rfl
      | cons c rest =>
          cases ends c rfl
          exact (uncommented_feed false rest).symm
  | cons c text ih =>
      obtain ⟨solid, later⟩ := List.ne_and_not_mem_of_not_mem_cons single
      rw [List.cons_append, uncommented]
      · exact ih later
      · exact Ne.symm solid

/-- The reader of a text leaves the stripped code of each line. -/
theorem uncommented_append {ending : List Char} (isOpen : Bool) (single : '\n' ∉ text)
    (ends : LineEnd ending) :
    uncommented (.ofOpen isOpen) (text ++ ending) = (strip isOpen text).code ++
      uncommented (.ofOpen (strip isOpen text).isOpen) ending := by
  induction isOpen, text using steps with
  | nil isOpen => rw [strip_nil]; rfl
  | line rest =>
      have later := (List.ne_and_not_mem_of_not_mem_cons
        (List.ne_and_not_mem_of_not_mem_cons single).2).2
      rw [strip_line]
      exact uncommented_lineComment later ends
  | opening rest ih =>
      have later := (List.ne_and_not_mem_of_not_mem_cons
        (List.ne_and_not_mem_of_not_mem_cons single).2).2
      rw [strip_opening, ← ih later]
      rfl
  | code c rest unmarked ih =>
      have later := (List.ne_and_not_mem_of_not_mem_cons single).2
      have longer : Unmarked (c :: (rest ++ ending)) := unmarked.append ends.neutral
      rw [strip_code unmarked]
      change uncommented .code (c :: (rest ++ ending)) = c :: ((strip false rest).code ++ _)
      rw [uncommented_code longer, ← ih later]
      rfl
  | closing rest ih =>
      have later := (List.ne_and_not_mem_of_not_mem_cons
        (List.ne_and_not_mem_of_not_mem_cons single).2).2
      rw [strip_closing]
      change _ = ' ' :: ((strip false rest).code ++ _)
      rw [← ih later]
      rfl
  | inside c rest unmarked ih =>
      obtain ⟨solid, later⟩ := List.ne_and_not_mem_of_not_mem_cons single
      have longer : after? closeMark (c :: (rest ++ ending)) = none :=
        after?_neutral (by simp) ends.neutral unmarked
      rw [strip_inside unmarked, ← ih later]
      exact uncommented_inside longer (Ne.symm solid)

/-! ## Texts without marks -/

theorem strip_plain_append (plain : '/' ∉ text) (rest : List Char) :
    strip false (text ++ rest) = ⟨text ++ (strip false rest).code, (strip false rest).isOpen⟩ := by
  induction text with
  | nil => rfl
  | cons c text ih =>
      obtain ⟨differs, later⟩ := List.ne_and_not_mem_of_not_mem_cons plain
      have unmarked : Unmarked (c :: (text ++ rest)) := by
        constructor
        · rw [lineMark, after?, if_neg differs]
        · rw [openMark, after?, if_neg differs]
      rw [List.cons_append, strip_code unmarked, ih later]
      rfl

theorem strip_plain (plain : '/' ∉ text) : strip false text = ⟨text, false⟩ := by
  have whole := strip_plain_append plain []
  rw [strip_nil, List.append_nil] at whole
  rw [whole]

theorem strip_swallowed (plain : '*' ∉ text) (rest : List Char) :
    strip true (text ++ rest) = strip true rest := by
  induction text with
  | nil => rfl
  | cons c text ih =>
      obtain ⟨differs, later⟩ := List.ne_and_not_mem_of_not_mem_cons plain
      have unmarked : after? closeMark (c :: (text ++ rest)) = none := by
        rw [closeMark, after?, if_neg differs]
      rw [List.cons_append, strip_inside unmarked, ih later]

/-- Blanks at the end of a line are code or comment like what stands before them. -/
theorem strip_append_blanks (isOpen : Bool) (text : List Char) (blanks : Blanks tail) :
    ∃ more, Blanks more ∧
      strip isOpen (text ++ tail) =
        ⟨(strip isOpen text).code ++ more, (strip isOpen text).isOpen⟩ := by
  induction isOpen, text using steps with
  | nil isOpen =>
      rw [strip_nil, List.nil_append]
      cases isOpen with
      | false =>
          have plain : '/' ∉ tail := fun member => absurd (blanks '/' member) (by decide)
          exact ⟨tail, blanks, strip_plain plain⟩
      | true =>
          have plain : '*' ∉ tail := fun member => absurd (blanks '*' member) (by decide)
          have swallowed := strip_swallowed plain []
          rw [strip_nil, List.append_nil] at swallowed
          exact ⟨[], blanks_nil, swallowed⟩
  | line rest =>
      refine ⟨[], blanks_nil, ?_⟩
      rw [List.cons_append, List.cons_append, strip_line, strip_line]
      rfl
  | opening rest ih =>
      obtain ⟨more, blank, stripped⟩ := ih
      refine ⟨more, blank, ?_⟩
      rw [List.cons_append, List.cons_append, strip_opening, strip_opening, stripped]
  | code c rest unmarked ih =>
      obtain ⟨more, blank, stripped⟩ := ih
      refine ⟨more, blank, ?_⟩
      have longer : Unmarked (c :: (rest ++ tail)) := unmarked.append (neutral_of_blanks blanks)
      rw [List.cons_append, strip_code unmarked, strip_code longer, stripped]
      rfl
  | closing rest ih =>
      obtain ⟨more, blank, stripped⟩ := ih
      refine ⟨more, blank, ?_⟩
      rw [List.cons_append, List.cons_append, strip_closing, strip_closing, stripped]
      rfl
  | inside c rest unmarked ih =>
      obtain ⟨more, blank, stripped⟩ := ih
      have longer : after? closeMark (c :: (rest ++ tail)) = none :=
        after?_neutral (by simp) (neutral_of_blanks blanks) unmarked
      refine ⟨more, blank, ?_⟩
      rw [List.cons_append, strip_inside unmarked, strip_inside longer, stripped]

/-- Marks that take the place of a line keep the comments around it as they are. -/
theorem strip_edges (openBefore openAfter : Bool) :
    ∃ code, Blanks code ∧
      strip openBefore (edges openBefore openAfter) = ⟨code, openAfter⟩ := by
  cases openBefore with
  | false =>
      cases openAfter with
      | false => exact ⟨[], blanks_nil, strip_nil false⟩
      | true =>
          refine ⟨[], blanks_nil, ?_⟩
          exact (strip_opening []).trans (strip_nil true)
  | true =>
      cases openAfter with
      | false =>
          refine ⟨[' '], blanks_nil.cons rfl, ?_⟩
          refine (strip_closing []).trans ?_
          rw [strip_nil]
      | true =>
          have open' : strip false [' ', '/', '*'] = ⟨[' '], true⟩ := by
            rw [strip_code ⟨rfl, rfl⟩, strip_opening, strip_nil]
          refine ⟨[' ', ' '], (blanks_nil.cons rfl).cons rfl, ?_⟩
          refine (strip_closing [' ', '/', '*']).trans ?_
          rw [open']

theorem noFeed_strip (isOpen : Bool) (single : '\n' ∉ text) :
    '\n' ∉ (strip isOpen text).code := by
  induction isOpen, text using steps with
  | nil isOpen => rw [strip_nil]; exact List.not_mem_nil
  | line rest => rw [strip_line]; exact List.not_mem_nil
  | opening rest ih =>
      rw [strip_opening]
      exact ih fun member =>
        single (List.mem_cons_of_mem _ (List.mem_cons_of_mem _ member))
  | code c rest unmarked ih =>
      obtain ⟨solid, later⟩ := List.ne_and_not_mem_of_not_mem_cons single
      rw [strip_code unmarked]
      exact List.not_mem_cons_of_ne_of_not_mem solid (ih later)
  | closing rest ih =>
      rw [strip_closing]
      refine List.not_mem_cons_of_ne_of_not_mem (by decide) (ih fun member => ?_)
      exact single (List.mem_cons_of_mem _ (List.mem_cons_of_mem _ member))
  | inside c rest unmarked ih =>
      rw [strip_inside unmarked]
      exact ih fun member => single (List.mem_cons_of_mem _ member)

/-! ## The code of a text -/

/-- The lines of a text without comments and without the blanks around them. -/
def codeLinesFrom (isOpen : Bool) (text : List Char) : List (List Char) :=
  (pieces (· == '\n') (uncommented (.ofOpen isOpen) text)).map trim

/-- The lines of a text without comments and without the blanks around them. -/
def codeLines (text : List Char) : List (List Char) := codeLinesFrom false text

/-- The code of each line, stripped one after the other. -/
def codes (isOpen : Bool) : List (List Char) → List (List Char)
  | [] => []
  | line :: rest => trim (strip isOpen line).code :: codes (strip isOpen line).isOpen rest

/-- Whether a block comment is open after some lines. -/
def openAfter (isOpen : Bool) : List (List Char) → Bool
  | [] => isOpen
  | line :: rest => openAfter (strip isOpen line).isOpen rest

theorem codes_append (isOpen : Bool) (first second : List (List Char)) :
    codes isOpen (first ++ second) =
      codes isOpen first ++ codes (openAfter isOpen first) second := by
  induction first generalizing isOpen with
  | nil => rfl
  | cons line rest ih =>
      rw [List.cons_append, codes, ih]
      rfl

theorem openAfter_append (isOpen : Bool) (first second : List (List Char)) :
    openAfter isOpen (first ++ second) = openAfter (openAfter isOpen first) second := by
  induction first generalizing isOpen with
  | nil => rfl
  | cons line rest ih => exact ih _

theorem getElem?_codes (isOpen : Bool) (texts : List (List Char)) (index : Nat) :
    (codes isOpen texts)[index]? = texts[index]?.map fun text =>
      trim (strip (openAfter isOpen (texts.take index)) text).code := by
  induction texts generalizing isOpen index with
  | nil => rfl
  | cons text rest ih =>
      cases index with
      | zero => rfl
      | succ index => exact ih _ index

theorem take_codes (isOpen : Bool) (texts : List (List Char)) (count : Nat) :
    (codes isOpen texts).take count = codes isOpen (texts.take count) := by
  induction texts generalizing isOpen count with
  | nil => rw [codes, List.take_nil, codes]
  | cons text rest ih =>
      cases count with
      | zero => rfl
      | succ count => rw [codes, List.take_succ_cons, List.take_succ_cons, codes, ih]

theorem length_codes (isOpen : Bool) (texts : List (List Char)) :
    (codes isOpen texts).length = texts.length := by
  induction texts generalizing isOpen with
  | nil => rfl
  | cons text rest ih => rw [codes, List.length_cons, List.length_cons, ih]

theorem solid_strip (isOpen : Bool) (single : '\n' ∉ text) :
    ∀ c ∈ (strip isOpen text).code, (c == '\n') = false := by
  intro c member
  rw [beq_eq_false_iff_ne]
  rintro rfl
  exact noFeed_strip isOpen single member

theorem codeLinesFrom_line (isOpen : Bool) (single : '\n' ∉ text) (rest : List Char) :
    codeLinesFrom isOpen (text ++ '\n' :: rest) =
      trim (strip isOpen text).code :: codeLinesFrom (strip isOpen text).isOpen rest := by
  have ends : LineEnd ('\n' :: rest) := by
    rintro c ⟨⟩
    rfl
  rw [codeLinesFrom, uncommented_append isOpen single ends, uncommented_feed,
    pieces_append_cons (solid_strip isOpen single) (beq_self_eq_true '\n')]
  rfl

theorem codeLinesFrom_last (isOpen : Bool) (single : '\n' ∉ text) :
    codeLinesFrom isOpen text = [trim (strip isOpen text).code] := by
  have ends : LineEnd [] := fun c first => nomatch first
  have whole := uncommented_append isOpen single ends
  rw [List.append_nil, uncommented, List.append_nil] at whole
  rw [codeLinesFrom, whole, pieces_of_solid (solid_strip isOpen single)]
  rfl

theorem codeLinesFrom_unlines (isOpen : Bool) {ls : List (List Char)}
    (single : ∀ line ∈ ls, '\n' ∉ line) :
    codeLinesFrom isOpen (unlines ls) = codes isOpen ls ++ [[]] := by
  induction ls generalizing isOpen with
  | nil =>
      change codeLinesFrom isOpen [] = [[]]
      rw [codeLinesFrom_last isOpen List.not_mem_nil, strip_nil]
      rfl
  | cons line rest ih =>
      have below := ih (strip isOpen line).isOpen fun other member =>
        single other (List.mem_cons_of_mem line member)
      have joined : unlines (line :: rest) = line ++ '\n' :: unlines rest := by
        simp [unlines]
      rw [joined, codeLinesFrom_line isOpen (single line List.mem_cons_self), below]
      rfl

theorem codes_append_blanks (isOpen : Bool) (text : List Char) (blanks : Blanks tail)
    (others : List (List Char)) :
    codes isOpen ((text ++ tail) :: others) = codes isOpen (text :: others) := by
  obtain ⟨more, blank, stripped⟩ := strip_append_blanks isOpen text blanks
  rw [codes, codes, stripped, trim_append_right _ blank]

theorem codeLinesFrom_flatten {ls : List (List Char)} (cut : Cut ls) (isOpen : Bool) :
    ∃ last, (∀ line ∈ last, line = []) ∧
      codeLinesFrom isOpen ls.flatten = codes isOpen (ls.map dropTerminator) ++ last := by
  induction ls generalizing isOpen with
  | nil =>
      refine ⟨[[]], fun line member => List.mem_singleton.mp member, ?_⟩
      change codeLinesFrom isOpen [] = [[]]
      rw [codeLinesFrom_last isOpen List.not_mem_nil, strip_nil]
      rfl
  | cons line rest ih =>
      rcases cut with ⟨⟨body, single, rfl⟩, below⟩ | ⟨rfl, _, single⟩
      · obtain ⟨last, empty, equal⟩ := ih below (strip isOpen body).isOpen
        obtain ⟨blanks, blank, dropped⟩ := dropTerminator_ended body
        have joined : ((body ++ ['\n']) :: rest).flatten = body ++ '\n' :: rest.flatten := by simp
        refine ⟨last, empty, ?_⟩
        rw [joined, codeLinesFrom_line isOpen single, equal, List.map_cons,
          ← codes_append_blanks isOpen _ blank, dropped]
        rfl
      · refine ⟨[], by simp, ?_⟩
        have joined : [line].flatten = line := by simp
        rw [joined, codeLinesFrom_last isOpen single, List.map_singleton,
          dropTerminator_of_single single]
        rfl

/--
The code of a text is the code of its lines, stripped one after the other; a last line
without code may follow.
-/
theorem codeLines_eq (text : List Char) :
    ∃ last, (∀ line ∈ last, line = []) ∧ codeLines text = codes false (lines text) ++ last := by
  have cut := codeLinesFrom_flatten (cut_terminatedLines text) false
  rw [flatten_terminatedLines] at cut
  exact cut

end LiveShader.Source.Comment
