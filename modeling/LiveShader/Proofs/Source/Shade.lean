import LiveShader.Proofs.Source.Gathering

/-!
# What a translation leaves of comments

A reader of the whole text tells for every character whether it is code, and after every
line whether a block comment is open.  A translation changes neither: at the beginning of
each line and at the end of the text the same comments are open as before, a kept line is
the line itself, a dropped one has only comment marks left, and the place of an output
moves no character of its line into a comment or out of one.
-/

namespace LiveShader.Source

open LiveShader.Text

namespace Comment

/-- Where the reader of a text stands at its end. -/
def Place.after : Place → List Char → Place
  | place, [] => place
  | .code, '/' :: '/' :: rest => after .lineComment rest
  | .code, '/' :: '*' :: rest => after .blockComment rest
  | .code, _ :: rest => after .code rest
  | .lineComment, '\n' :: rest => after .code rest
  | .lineComment, _ :: rest => after .lineComment rest
  | .blockComment, '*' :: '/' :: rest => after .code rest
  | .blockComment, _ :: rest => after .blockComment rest

/-- A text ends inside a block comment. -/
def EndsInside (text : List Char) : Prop := Place.after .code text = .blockComment

instance (text : List Char) : Decidable (EndsInside text) :=
  inferInstanceAs (Decidable (Place.after .code text = .blockComment))

/-- The characters of a text, each with whether it is code.  Comment marks are not. -/
def shaded : Place → List Char → List (Char × Bool)
  | _, [] => []
  | .code, '/' :: '/' :: rest => ('/', false) :: ('/', false) :: shaded .lineComment rest
  | .code, '/' :: '*' :: rest => ('/', false) :: ('*', false) :: shaded .blockComment rest
  | .code, c :: rest => (c, true) :: shaded .code rest
  | .lineComment, '\n' :: rest => ('\n', true) :: shaded .code rest
  | .lineComment, c :: rest => (c, false) :: shaded .lineComment rest
  | .blockComment, '*' :: '/' :: rest => ('*', false) :: ('/', false) :: shaded .code rest
  | .blockComment, c :: rest => (c, false) :: shaded .blockComment rest

variable {c : Char} {text rest : List Char}

/-! ## Where a line ends -/

theorem after_code (unmarked : Unmarked (c :: rest)) :
    Place.after .code (c :: rest) = Place.after .code rest := by
  rw [Place.after]
  · rintro other rfl rfl
    cases unmarked.line
  · rintro other rfl rfl
    cases unmarked.block

theorem after_inside (unmarked : after? closeMark (c :: rest) = none) :
    Place.after .blockComment (c :: rest) = Place.after .blockComment rest := by
  rw [Place.after]
  rintro other rfl rfl
  cases unmarked

theorem after_feed (isOpen : Bool) (rest : List Char) :
    Place.after (.ofOpen isOpen) ('\n' :: rest) = Place.after (.ofOpen isOpen) rest := by
  cases isOpen with
  | false => exact after_code ⟨rfl, rfl⟩
  | true => exact after_inside rfl

theorem after_lineComment (single : '\n' ∉ text) (rest : List Char) :
    Place.after .lineComment (text ++ '\n' :: rest) = Place.after .code rest ∧
      Place.after .lineComment text = .lineComment := by
  induction text with
  | nil => exact ⟨by rw [List.nil_append, Place.after], rfl⟩
  | cons c text ih =>
      obtain ⟨solid, later⟩ := List.ne_and_not_mem_of_not_mem_cons single
      obtain ⟨joined, alone⟩ := ih later
      constructor
      · rw [List.cons_append, Place.after, joined]
        exact Ne.symm solid
      · rw [Place.after, alone]
        exact Ne.symm solid

/-- The reader stands behind a line as the stripping of the line says. -/
theorem after_line (isOpen : Bool) (single : '\n' ∉ text) (rest : List Char) :
    Place.after (.ofOpen isOpen) (text ++ '\n' :: rest) =
      Place.after (.ofOpen (strip isOpen text).isOpen) rest := by
  have ends : LineEnd ('\n' :: rest) := by
    rintro c ⟨⟩
    rfl
  induction isOpen, text using steps with
  | nil isOpen =>
      rw [strip_nil]
      exact after_feed isOpen rest
  | line inner =>
      have later := (List.ne_and_not_mem_of_not_mem_cons
        (List.ne_and_not_mem_of_not_mem_cons single).2).2
      rw [strip_line]
      exact (after_lineComment later rest).1
  | opening inner ih =>
      have later := (List.ne_and_not_mem_of_not_mem_cons
        (List.ne_and_not_mem_of_not_mem_cons single).2).2
      rw [strip_opening, ← ih later]
      rfl
  | code c inner unmarked ih =>
      have later := (List.ne_and_not_mem_of_not_mem_cons single).2
      have longer : Unmarked (c :: (inner ++ '\n' :: rest)) := unmarked.append ends.neutral
      rw [strip_code unmarked, ← ih later]
      exact after_code longer
  | closing inner ih =>
      have later := (List.ne_and_not_mem_of_not_mem_cons
        (List.ne_and_not_mem_of_not_mem_cons single).2).2
      rw [strip_closing, ← ih later]
      rfl
  | inside c inner unmarked ih =>
      have later := (List.ne_and_not_mem_of_not_mem_cons single).2
      have longer : after? closeMark (c :: (inner ++ '\n' :: rest)) = none :=
        after?_neutral (by simp) ends.neutral unmarked
      rw [strip_inside unmarked, ← ih later]
      exact after_inside longer

/-- The last line need not be ended; a line comment may then be open as well. -/
theorem after_last_iff (isOpen : Bool) (single : '\n' ∉ text) :
    Place.after (.ofOpen isOpen) text = .blockComment ↔ (strip isOpen text).isOpen = true := by
  induction isOpen, text using steps with
  | nil isOpen =>
      rw [strip_nil, Place.after]
      cases isOpen <;> decide
  | line inner =>
      have later := (List.ne_and_not_mem_of_not_mem_cons
        (List.ne_and_not_mem_of_not_mem_cons single).2).2
      have swallowed : Place.after (.ofOpen false) ('/' :: '/' :: inner) = .lineComment :=
        (after_lineComment later []).2
      rw [strip_line, swallowed]
      decide
  | opening inner ih =>
      have later := (List.ne_and_not_mem_of_not_mem_cons
        (List.ne_and_not_mem_of_not_mem_cons single).2).2
      rw [strip_opening]
      exact ih later
  | code c inner unmarked ih =>
      have later := (List.ne_and_not_mem_of_not_mem_cons single).2
      have step : Place.after (.ofOpen false) (c :: inner) = Place.after (.ofOpen false) inner :=
        after_code unmarked
      rw [strip_code unmarked, step]
      exact ih later
  | closing inner ih =>
      have later := (List.ne_and_not_mem_of_not_mem_cons
        (List.ne_and_not_mem_of_not_mem_cons single).2).2
      rw [strip_closing]
      exact ih later
  | inside c inner unmarked ih =>
      have later := (List.ne_and_not_mem_of_not_mem_cons single).2
      have step : Place.after (.ofOpen true) (c :: inner) = Place.after (.ofOpen true) inner :=
        after_inside unmarked
      rw [strip_inside unmarked, step]
      exact ih later

/-! ## Where a text ends -/

theorem after_unlines (isOpen : Bool) {ls : List (List Char)}
    (single : ∀ line ∈ ls, '\n' ∉ line) :
    Place.after (.ofOpen isOpen) (unlines ls) = .ofOpen (openAfter isOpen ls) := by
  induction ls generalizing isOpen with
  | nil => rfl
  | cons line rest ih =>
      have joined : unlines (line :: rest) = line ++ '\n' :: unlines rest := by simp [unlines]
      rw [joined, after_line isOpen (single line List.mem_cons_self),
        ih _ fun other member => single other (List.mem_cons_of_mem line member)]
      rfl

theorem openAfter_ended (isOpen : Bool) (body : List Char) :
    (strip isOpen (dropTerminator (body ++ ['\n']))).isOpen = (strip isOpen body).isOpen := by
  obtain ⟨blanks, blank, dropped⟩ := dropTerminator_ended body
  obtain ⟨more, _, stripped⟩ :=
    strip_append_blanks isOpen (dropTerminator (body ++ ['\n'])) blank
  rw [dropped] at stripped
  rw [stripped]

/-- A text that is cut into lines ends inside a block comment exactly if its lines do. -/
theorem after_flatten_iff (isOpen : Bool) {ls : List (List Char)} (cut : Cut ls) :
    Place.after (.ofOpen isOpen) ls.flatten = .blockComment ↔
      openAfter isOpen (ls.map dropTerminator) = true := by
  induction ls generalizing isOpen with
  | nil => cases isOpen <;> decide
  | cons line rest ih =>
      rw [List.map_cons, openAfter]
      rcases cut with ⟨⟨body, single, rfl⟩, below⟩ | ⟨rfl, _, single⟩
      · have joined : ((body ++ ['\n']) :: rest).flatten = body ++ '\n' :: rest.flatten := by simp
        rw [joined, after_line isOpen single, openAfter_ended]
        exact ih _ below
      · have joined : [line].flatten = line := by simp
        rw [joined, dropTerminator_of_single single]
        exact after_last_iff isOpen single

theorem cut_take {ls : List (List Char)} (cut : Cut ls) (count : Nat) : Cut (ls.take count) := by
  induction ls generalizing count with
  | nil =>
      rw [List.take_nil]
      exact cut
  | cons line rest ih =>
      cases count with
      | zero => trivial
      | succ count =>
          rcases cut with ⟨ended, below⟩ | ⟨rfl, full, single⟩
          · exact Or.inl ⟨ended, ih below count⟩
          · exact Or.inr ⟨List.take_nil, full, single⟩

/-- The first lines of a text, with their terminators. -/
def firstLines (text : List Char) (count : Nat) : List Char :=
  ((terminatedLines text).take count).flatten

theorem endsInside_firstLines_iff (text : List Char) (count : Nat) :
    EndsInside (firstLines text count) ↔ openAfter false ((lines text).take count) = true := by
  have cut := cut_take (cut_terminatedLines text) count
  rw [lines, ← List.map_take]
  exact after_flatten_iff false cut

/-! ## Characters without marks -/

theorem shaded_code (unmarked : Unmarked (c :: rest)) :
    shaded .code (c :: rest) = (c, true) :: shaded .code rest := by
  rw [shaded]
  · rintro other rfl rfl
    cases unmarked.line
  · rintro other rfl rfl
    cases unmarked.block

theorem shaded_inside (unmarked : after? closeMark (c :: rest) = none) :
    shaded .blockComment (c :: rest) = (c, false) :: shaded .blockComment rest := by
  rw [shaded]
  rintro other rfl rfl
  cases unmarked

/-- A text without slashes and stars is code or comment like what stands before it. -/
theorem shaded_unmarked (isOpen : Bool) (slashes : '/' ∉ text) (stars : '*' ∉ text)
    (rest : List Char) :
    shaded (.ofOpen isOpen) (text ++ rest) =
      text.map (fun c => (c, !isOpen)) ++ shaded (.ofOpen isOpen) rest := by
  induction text with
  | nil => rfl
  | cons c text ih =>
      obtain ⟨slash, slashes'⟩ := List.ne_and_not_mem_of_not_mem_cons slashes
      obtain ⟨star, stars'⟩ := List.ne_and_not_mem_of_not_mem_cons stars
      have below := ih slashes' stars'
      cases isOpen with
      | false =>
          have unmarked : Unmarked (c :: (text ++ rest)) := by
            constructor
            · rw [lineMark, after?, if_neg slash]
            · rw [openMark, after?, if_neg slash]
          rw [List.map_cons, List.cons_append, List.cons_append, ← below]
          exact shaded_code unmarked
      | true =>
          have unmarked : after? closeMark (c :: (text ++ rest)) = none := by
            rw [closeMark, after?, if_neg star]
          rw [List.map_cons, List.cons_append, List.cons_append, ← below]
          exact shaded_inside unmarked

end Comment

open Comment

/-! ## Lines and what is left of them -/

/-- What may be left of a line that begins inside a block comment or outside of one. -/
inductive Rendered (isOpen : Bool) (line : List Char) : List Char → Prop where
  | kept : Rendered isOpen line line
  | blanked {after : List Char}
      (marks : after ∈ [[], "*/".toList, "/*".toList, "*/ /*".toList])
      (bare : ∀ entry ∈ shaded (.ofOpen isOpen) after, entry.2 = true → isBlank entry.1 = true) :
      Rendered isOpen line after
  | led {gap place : List (Char × Bool)} (blanks : ∀ entry ∈ gap, isBlank entry.1 = true)
      (before : shaded (.ofOpen isOpen) line = gap ++ shaded (.ofOpen isOpen) (trimStart line))
      (behind : shaded (.ofOpen isOpen) (outputPlace ++ trimStart line) =
        place ++ shaded (.ofOpen isOpen) (trimStart line)) :
      Rendered isOpen line (outputPlace ++ trimStart line)

/-- Lines and what is left of them, each with the same block comment open before it. -/
inductive Rendering : Bool → List (List Char) → List (List Char) → Prop where
  | nil {isOpen : Bool} : Rendering isOpen [] []
  | cons {isOpen : Bool} {line after : List Char} {rest others : List (List Char)}
      (first : Rendered isOpen line after)
      (same : (strip isOpen after).isOpen = (strip isOpen line).isOpen)
      (below : Rendering (strip isOpen line).isOpen rest others) :
      Rendering isOpen (line :: rest) (after :: others)

theorem rendered_edges (isOpen : Bool) (line : List Char) :
    Rendered isOpen line (edges isOpen (strip isOpen line).isOpen) ∧
      (strip isOpen (edges isOpen (strip isOpen line).isOpen)).isOpen =
        (strip isOpen line).isOpen := by
  constructor
  · generalize (strip isOpen line).isOpen = ends
    apply Rendered.blanked
    · revert isOpen ends
      decide
    · revert isOpen ends
      decide
  · obtain ⟨code, _, stripped⟩ := strip_edges isOpen (strip isOpen line).isOpen
    rw [stripped]

theorem rendered_led (isOpen : Bool) (line : List Char) :
    Rendered isOpen line (outputPlace ++ trimStart line) := by
  obtain ⟨gap, blanks, equal⟩ := exists_trimStart line
  have slashes : '/' ∉ gap := fun member => absurd (blanks '/' member) (by decide)
  have stars : '*' ∉ gap := fun member => absurd (blanks '*' member) (by decide)
  have before := shaded_unmarked isOpen slashes stars (trimStart line)
  rw [← equal] at before
  refine .led ?_ before (shaded_unmarked isOpen (by decide) (by decide) (trimStart line))
  intro entry member
  obtain ⟨c, inside, rfl⟩ := List.mem_map.mp member
  exact blanks c inside

namespace Rendering

variable {isOpen : Bool} {texts others : List (List Char)}

theorem length_eq (rendering : Rendering isOpen texts others) : others.length = texts.length := by
  induction rendering with
  | nil => rfl
  | cons first same below ih => rw [List.length_cons, List.length_cons, ih]

theorem openAfter_take (rendering : Rendering isOpen texts others) (count : Nat) :
    openAfter isOpen (others.take count) = openAfter isOpen (texts.take count) := by
  induction rendering generalizing count with
  | nil => rw [List.take_nil]
  | cons first same below ih =>
      cases count with
      | zero => rfl
      | succ count =>
          rw [List.take_succ_cons, List.take_succ_cons, openAfter, openAfter, same]
          exact ih count

theorem rendered (rendering : Rendering isOpen texts others) {index : Nat}
    {line after : List Char} (there : texts[index]? = some line)
    (left : others[index]? = some after) :
    Rendered (openAfter isOpen (texts.take index)) line after := by
  induction rendering generalizing index with
  | nil => cases there
  | cons first same below ih =>
      cases index with
      | zero =>
          cases there
          cases left
          exact first
      | succ index => exact ih there left

end Rendering

theorem rendering_lines (scan : Scan) (texts : List (List Char)) :
    Rendering scan.isOpen texts (scan.lines texts).1 := by
  induction texts generalizing scan with
  | nil => exact .nil
  | cons text rest ih =>
      rcases read : scan.line text with ⟨rewrite, after⟩
      have below := ih after
      rw [(Scan.carried_line read).1] at below
      have same := (Scan.outcome_line read).1
      rw [Scan.lines, read]
      refine .cons ?_ same below
      cases Scan.step_of_line read with
      | directive => exact (rendered_edges scan.isOpen text).1
      | inner => exact .kept
      | gathered => exact (rendered_edges scan.isOpen text).1
      | output => exact rendered_led scan.isOpen text
      | kept => exact .kept

theorem rendering_vertexLines (isOpen : Bool) (texts : List (List Char)) :
    Rendering isOpen texts (vertexLines isOpen texts) := by
  induction texts generalizing isOpen with
  | nil => exact .nil
  | cons text rest ih =>
      rw [vertexLines]
      split
      · obtain ⟨blanked, same⟩ := rendered_edges isOpen text
        exact .cons blanked same (ih _)
      · exact .cons .kept rfl (ih _)

/-! ## Whole translations -/

namespace Translation

/-- A translation leaves the comments of a source as they are. -/
structure KeepsComments (translation : Translation) (source : List Char) : Prop where
  length : translation.body.length = (lines source).length
  /-- At the beginning of each line, and at the end. -/
  state : ∀ count, EndsInside (unlines (translation.preamble ++ translation.body.take count)) ↔
    EndsInside (firstLines source count)
  lines : ∀ index line after, (lines source)[index]? = some line →
    translation.body[index]? = some after →
      Rendered (decide (EndsInside (firstLines source index))) line after

variable {translation : Translation} {source : List Char}

theorem keepsComments (rendering : Rendering false (Text.lines source) translation.body)
    (single : ∀ line ∈ translation.preamble ++ translation.body, '\n' ∉ line)
    (closed : openAfter false translation.preamble = false) :
    translation.KeepsComments source := by
  constructor
  · exact rendering.length_eq
  · intro count
    have single' : ∀ line ∈ translation.preamble ++ translation.body.take count, '\n' ∉ line := by
      intro line member
      apply single
      rcases List.mem_append.mp member with front | inside
      · exact List.mem_append_left _ front
      · exact List.mem_append_right _ (List.mem_of_mem_take inside)
    have read := after_unlines false single'
    rw [endsInside_firstLines_iff, ← rendering.openAfter_take count, EndsInside]
    change Place.after (.ofOpen false) _ = _ ↔ _
    rw [read, openAfter_append, closed]
    cases openAfter false (translation.body.take count) <;> decide
  · intro index line after there left
    have same : decide (EndsInside (firstLines source index)) =
        openAfter false ((Text.lines source).take index) := by
      rw [Bool.eq_iff_iff, decide_eq_true_iff]
      exact endsInside_firstLines_iff source index
    rw [same]
    exact rendering.rendered there left

end Translation

/--
A translation keeps the structure of comments: the same block comments are open at the
beginning of each line and at the end, kept lines are unchanged, dropped lines have no
code left, and the rest of every other line is code or comment as it was.  A vertex stage
is translated whenever its lines have origins.
-/
theorem comments_kept (source : List Char) :
    (∀ translation, translateFragment source = .ok translation →
      translation.KeepsComments source) ∧
    ∀ origins, Origin.ofSource source = some origins →
      ∃ translation, translateVertex source = some translation ∧
        translation.KeepsComments source := by
  constructor
  · intro translation made
    obtain ⟨_, _, _, rfl⟩ := translateFragment_cases made
    have built : (Scan.start.lines (lines source)).2.layout.Built :=
      Scan.built_lines .empty (lines source)
    refine Translation.keepsComments (rendering_lines Scan.start _) ?_
      (codes_fragmentPreamble built).2
    intro line member
    rcases List.mem_append.mp member with front | inside
    · exact noFeed_map (noFeed_fragmentPreamble built) line front
    · exact noFeed_rewritten (Scan.start.rewritten_lines _) line inside
  · intro origins counted
    have plain : ∀ line ∈ ["#version 450", "#define gl_VertexID gl_VertexIndex"].map String.toList,
        '/' ∉ line ∧ '\n' ∉ line := by
      decide
    refine ⟨_, congrArg (Option.map _) counted, ?_⟩
    refine Translation.keepsComments (rendering_vertexLines false _) ?_
      (codes_of_plain fun line member => (plain line member).1).2
    intro line member
    rcases List.mem_append.mp member with front | inside
    · exact (plain line front).2
    · exact noFeed_rewritten (rewritten_vertexLines false _) line inside

/-- What is computed of a translation is true of one. -/
theorem exists_translation {source : List Char} {α : Type} {value : α}
    {part : Translation → α} (read : (translateFragment source).toOption.map part = some value) :
    ∃ translation, translateFragment source = .ok translation ∧ part translation = value := by
  cases made : translateFragment source with
  | error fault =>
      rw [made] at read
      cases read
  | ok translation =>
      rw [made] at read
      exact ⟨translation, rfl, Option.some.inj read⟩

/-- A stage whose comments begin and end on lines that are dropped, led and kept. -/
def tangledStage : List Char :=
  "/* a\n*/ out vec4 c; /* b\n*/ uniform float t; /*/ c\n// */ precision highp float; /* d".toList

theorem comments_kept_tangledStage :
    (∃ translation, translateFragment tangledStage = .ok translation ∧
      translation.KeepsComments tangledStage ∧
      translation.body = ["/* a".toList, "layout(location = 0) */ out vec4 c; /* b".toList,
        "*/ /*".toList, "*/ /*".toList]) ∧
    ∃ translation, translateVertex tangledStage = some translation ∧
      translation.KeepsComments tangledStage := by
  have body : (translateFragment tangledStage).toOption.map Translation.body =
      some ["/* a".toList, "layout(location = 0) */ out vec4 c; /* b".toList,
        "*/ /*".toList, "*/ /*".toList] := by
    decide +kernel
  have counted : Origin.ofSource tangledStage =
      some [some ⟨0, 1⟩, some ⟨0, 2⟩, some ⟨0, 3⟩, some ⟨0, 4⟩] := by
    decide +kernel
  refine ⟨?_, (comments_kept tangledStage).2 _ counted⟩
  obtain ⟨translation, made, left⟩ := exists_translation body
  exact ⟨translation, made, (comments_kept tangledStage).1 translation made, left⟩

end LiveShader.Source
