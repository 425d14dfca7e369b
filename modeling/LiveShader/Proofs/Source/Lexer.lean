import LiveShader.Proofs.Source.Comment

/-!
# The comment lexer of a whole text

A lexer reads a text character by character.  A slash in code may begin a comment and a star
in a block comment may end it, so the lexer waits for the next character before it decides.
A block comment leaves one space where it closes.

Stripping knows nothing of this: it is given one line at a time, searches for whole marks and
jumps behind them.  Yet on every line both leave the same code, and a block comment is open
after the line in the one exactly if it is in the other.  The search is repeated at most once
for every two characters of the line, and once more.
-/

namespace LiveShader.Source.Comment

open LiveShader.Text

/-! ## The lexer -/

/-- What the lexer knows between two characters of a line. -/
inductive Mode where
  | code
  /-- In code, behind a slash that may begin a comment. -/
  | slash
  | lineComment
  | blockComment
  /-- In a block comment, behind a star that may end it. -/
  | star
  deriving DecidableEq

namespace Mode

/-- The mode behind a character. -/
def next : Mode → Char → Mode
  | .code, '/' => .slash
  | .code, _ => .code
  | .slash, '/' => .lineComment
  | .slash, '*' => .blockComment
  | .slash, _ => .code
  | .lineComment, _ => .lineComment
  | .blockComment, '*' => .star
  | .blockComment, _ => .blockComment
  | .star, '/' => .code
  | .star, '*' => .star
  | .star, _ => .blockComment

/-- The code that a character settles. -/
def emit : Mode → Char → List Char
  | .code, '/' => []
  | .code, c => [c]
  | .slash, '/' => []
  | .slash, '*' => []
  | .slash, c => ['/', c]
  | .star, '/' => [' ']
  | _, _ => []

/-- The code that the end of a line settles: a slash at the end begins no comment. -/
def held : Mode → List Char
  | .slash => ['/']
  | _ => []

/-- The mode behind a line break: it ends a line comment, and no mark reaches over it. -/
def newline : Mode → Mode
  | .code | .slash | .lineComment => .code
  | .blockComment | .star => .blockComment

/-- Whether a block comment is open. -/
def isOpen : Mode → Bool
  | .code | .slash | .lineComment => false
  | .blockComment | .star => true

end Mode

/-- A lexer inside of a line. -/
structure Lexer where
  mode : Mode
  /-- The code of the line so far. -/
  code : List Char
  /-- Whether the line has a character. -/
  begun : Bool

namespace Lexer

/-- At the beginning of a text. -/
def start : Lexer := ⟨.code, [], false⟩

/-- Reads one character of a line. -/
def read (lexer : Lexer) (c : Char) : Lexer :=
  ⟨lexer.mode.next c, lexer.code ++ lexer.mode.emit c, true⟩

/-- What is left of a line that ends here. -/
def line (lexer : Lexer) : Stripped := ⟨lexer.code ++ lexer.mode.held, lexer.mode.isOpen⟩

/-- At the beginning of the next line. -/
def nextLine (lexer : Lexer) : Lexer := ⟨lexer.mode.newline, [], false⟩

/--
Reads a text to its end.  A line ends at a line feed, with a carriage return directly before it,
and the last one at the end of the text.
-/
def readText (lexer : Lexer) : List Char → List Stripped
  | [] => if lexer.begun then [lexer.line] else []
  | '\n' :: rest => lexer.line :: lexer.nextLine.readText rest
  | '\r' :: '\n' :: rest => lexer.line :: lexer.nextLine.readText rest
  | c :: rest => (lexer.read c).readText rest

end Lexer

/-- What the lexer leaves of each line of a text. -/
def lexedLines (text : List Char) : List Stripped := Lexer.start.readText text

/-- What stripping leaves of lines, one after the other. -/
def strippedLines (isOpen : Bool) : List (List Char) → List Stripped
  | [] => []
  | line :: rest => strip isOpen line :: strippedLines (strip isOpen line).isOpen rest

/-! ## One line -/

variable {c : Char} {line rest : List Char}

namespace Mode

/-- Where a line begins, given whether a block comment is open. -/
def ofOpen : Bool → Mode
  | false => .code
  | true => .blockComment

theorem newline_eq (mode : Mode) : mode.newline = ofOpen mode.isOpen := by
  cases mode <;> rfl

/-- The mode behind a part of a line. -/
def after (mode : Mode) (part : List Char) : Mode := part.foldl next mode

/-- The code that a part of a line settles. -/
def emitted : Mode → List Char → List Char
  | _, [] => []
  | mode, c :: rest => mode.emit c ++ (mode.next c).emitted rest

/-- What is left of a line that is read from a mode. -/
def stripped (mode : Mode) (line : List Char) : Stripped :=
  ⟨mode.emitted line ++ (mode.after line).held, (mode.after line).isOpen⟩

theorem after_concat (mode : Mode) (part : List Char) (c : Char) :
    mode.after (part ++ [c]) = (mode.after part).next c := by
  simp [after]

theorem emitted_concat (mode : Mode) (part : List Char) (c : Char) :
    mode.emitted (part ++ [c]) = mode.emitted part ++ (mode.after part).emit c := by
  induction part generalizing mode with
  | nil => simp [emitted, after]
  | cons d part ih =>
      rw [List.cons_append, emitted, emitted, ih, List.append_assoc]
      rfl

theorem stripped_cons (mode : Mode) (c : Char) (rest : List Char) :
    mode.stripped (c :: rest) =
      ⟨mode.emit c ++ ((mode.next c).stripped rest).code,
        ((mode.next c).stripped rest).isOpen⟩ := by
  simp [stripped, emitted, after]

theorem stripped_lineComment (line : List Char) : lineComment.stripped line = ⟨[], false⟩ := by
  induction line with
  | nil => rfl
  | cons c line ih =>
      rw [stripped_cons, show lineComment.next c = lineComment from rfl, ih]
      rfl

theorem stripped_code (plain : c ≠ '/') (rest : List Char) :
    code.stripped (c :: rest) = ⟨c :: (code.stripped rest).code, (code.stripped rest).isOpen⟩ := by
  have stays : code.next c = code := by simp [next]
  have settled : code.emit c = [c] := by simp [emit]
  rw [stripped_cons, stays, settled]
  rfl

/-- A slash is code if the next character makes no mark of it. -/
theorem stripped_slash (unmarked : Unmarked ('/' :: rest)) :
    slash.stripped rest = ⟨'/' :: (code.stripped rest).code, (code.stripped rest).isOpen⟩ := by
  cases rest with
  | nil => rfl
  | cons c rest =>
      have noLine : c ≠ '/' := by
        rintro rfl
        cases unmarked.line
      have noBlock : c ≠ '*' := by
        rintro rfl
        cases unmarked.block
      have leaves : slash.next c = code := by simp [next]
      have settled : slash.emit c = ['/', c] := by simp [emit]
      rw [stripped_cons, leaves, settled, stripped_code noLine]
      rfl

/-- A star is part of the comment if no slash follows. -/
theorem stripped_star (unmarked : after? closeMark ('*' :: rest) = none) :
    star.stripped rest = blockComment.stripped rest := by
  cases rest with
  | nil => rfl
  | cons c rest =>
      have noSlash : c ≠ '/' := by
        rintro rfl
        cases unmarked
      have leads : star.next c = blockComment.next c := by
        by_cases second : c = '*' <;> simp [next, second]
      have silent : star.emit c = blockComment.emit c := by simp [emit, noSlash]
      rw [stripped_cons, stripped_cons, leads, silent]

/-- On one line the lexer leaves what stripping leaves. -/
theorem stripped_ofOpen (isOpen : Bool) (line : List Char) :
    (ofOpen isOpen).stripped line = strip isOpen line := by
  induction isOpen, line using steps with
  | nil isOpen =>
      rw [strip_nil]
      cases isOpen <;> rfl
  | line rest =>
      rw [strip_line, ← stripped_lineComment rest]
      rfl
  | opening rest ih =>
      rw [strip_opening, ← ih]
      rfl
  | code c rest unmarked ih =>
      rw [strip_code unmarked, ← ih]
      by_cases slashed : c = '/'
      · subst slashed
        exact stripped_slash unmarked
      · exact stripped_code slashed rest
  | closing rest ih =>
      rw [strip_closing, ← ih]
      rfl
  | inside c rest unmarked ih =>
      rw [strip_inside unmarked, ← ih]
      by_cases starred : c = '*'
      · subst starred
        exact stripped_star unmarked
      · have stays : blockComment.next c = blockComment := by simp [next]
        change blockComment.stripped (c :: rest) = blockComment.stripped rest
        rw [stripped_cons, stays]
        rfl

end Mode

/-! ## A whole text -/

namespace Lexer

/-- The lexer inside of a line, behind the given part of it. -/
def behind (isOpen : Bool) (part : List Char) : Lexer :=
  ⟨(Mode.ofOpen isOpen).after part, (Mode.ofOpen isOpen).emitted part, !part.isEmpty⟩

theorem read_behind (isOpen : Bool) (part : List Char) (c : Char) :
    (behind isOpen part).read c = behind isOpen (part ++ [c]) := by
  simp [behind, read, Mode.after_concat, Mode.emitted_concat]

theorem line_behind (isOpen : Bool) (part : List Char) :
    (behind isOpen part).line = strip isOpen part :=
  Mode.stripped_ofOpen isOpen part

/-- A line break leaves the lexer at the beginning of a line. -/
theorem nextLine_behind (isOpen : Bool) (part : List Char) :
    (behind isOpen part).nextLine = behind (strip isOpen part).isOpen [] := by
  rw [← line_behind, nextLine, Mode.newline_eq]
  rfl

/-- A line break ends the line that was begun, and the lines behind it follow. -/
theorem readText_break (isOpen : Bool) (part rest : List Char)
    (later : (behind isOpen part).nextLine.readText rest =
      strippedLines (strip isOpen part).isOpen (prepend [] (lines rest))) :
    (behind isOpen part).line :: (behind isOpen part).nextLine.readText rest =
      strippedLines isOpen (prepend part ([] :: lines rest)) := by
  rw [line_behind, later, prepend_nil, prepend, List.append_nil]
  rfl

/-- Behind a part of a line the lexer leaves what stripping leaves of that line and the others. -/
theorem readText_behind (isOpen : Bool) (part text : List Char) :
    (behind isOpen part).readText text =
      strippedLines isOpen (prepend part (lines text)) := by
  generalize made : behind isOpen part = lexer
  -- the induction is along the reading; the part grows until its line is ended
  fun_induction readText lexer text generalizing isOpen part with
  | case1 lexer begun =>
      subst made
      have full : part.isEmpty = false := by simpa [behind] using begun
      rw [line_behind, lines, terminatedLines, List.map_nil, prepend, full]
      rfl
  | case2 lexer fresh =>
      subst made
      have empty : part.isEmpty = true := by simpa [behind] using fresh
      rw [lines, terminatedLines, List.map_nil, prepend, empty]
      rfl
  | case3 lexer rest ih =>
      subst made
      rw [lines_feed]
      exact readText_break isOpen part rest (ih _ _ (nextLine_behind isOpen part).symm)
  | case4 lexer rest ih =>
      subst made
      rw [lines_returnFeed]
      exact readText_break isOpen part rest (ih _ _ (nextLine_behind isOpen part).symm)
  | case5 lexer c rest solid inner ih =>
      subst made
      have unbroken : c = '\r' → rest.head? ≠ some '\n' := by
        intro returned fed
        obtain ⟨below, rfl⟩ := List.head?_eq_some_iff.mp fed
        exact inner below returned rfl
      rw [ih isOpen (part ++ [c]) (read_behind isOpen part c).symm, lines_cons solid unbroken,
        prepend_prepend]

end Lexer

/-! ## The searches of a line -/

/-- A line that is being stripped, between two searches. -/
structure Round where
  /-- The code so far. -/
  code : List Char
  isOpen : Bool
  /-- What has not been searched. -/
  rest : List Char

namespace Round

/-- Searches the rest of the line once: either the line is stripped, or another search follows. -/
def search (round : Round) : Stripped ⊕ Round :=
  if round.isOpen then
    match cutAt? closeMark round.rest with
    | none => .inl ⟨round.code, true⟩
    | some (_, rest) => .inr ⟨round.code ++ [' '], false, rest⟩
  else
    match cutAt? lineMark round.rest, cutAt? openMark round.rest with
    | none, none => .inl ⟨round.code ++ round.rest, false⟩
    | some (before, _), none => .inl ⟨round.code ++ before, false⟩
    | none, some (before, rest) => .inr ⟨round.code ++ before, true, rest⟩
    | some (beforeLine, _), some (before, rest) =>
        if beforeLine.length < before.length then .inl ⟨round.code ++ beforeLine, false⟩
        else .inr ⟨round.code ++ before, true, rest⟩

/-- Searching comes to an end, with the given number of searches. -/
inductive Ends : Round → Nat → Stripped → Prop where
  | last {round : Round} {result : Stripped} (found : round.search = .inl result) :
      Ends round 1 result
  | again {round next : Round} {count : Nat} {result : Stripped}
      (found : round.search = .inr next) (ends : Ends next count result) :
      Ends round (count + 1) result

/-- What stripping makes of the line in the end. -/
def stripped (round : Round) : Stripped :=
  ⟨round.code ++ (strip round.isOpen round.rest).code, (strip round.isOpen round.rest).isOpen⟩

theorem behind_mark {mark text before rest : List Char} (two : mark.length = 2)
    (cut : cutAt? mark text = some (before, rest)) : rest.length + 2 ≤ text.length := by
  have parts := length_cutAt? cut
  omega

/-- A search is the last one or leaves a mark behind, and the line is stripped to the same end. -/
theorem search_cases (round : Round) :
    round.search = .inl round.stripped ∨
      ∃ next, round.search = .inr next ∧ next.stripped = round.stripped ∧
        next.rest.length + 2 ≤ round.rest.length := by
  rcases round with ⟨code, isOpen, rest⟩
  cases isOpen with
  | true =>
      rw [search, if_pos rfl, stripped, strip, if_pos rfl]
      cases cut : cutAt? closeMark rest with
      | none => exact Or.inl (by simp)
      | some parts =>
          exact Or.inr ⟨_, rfl, by simp [stripped], behind_mark rfl cut⟩
  | false =>
      rw [search, if_neg Bool.false_ne_true, stripped, strip, if_neg Bool.false_ne_true]
      cases opened : cutAt? openMark rest with
      | none => exact Or.inl (by cases cutAt? lineMark rest <;> rfl)
      | some parts =>
          cases cutAt? lineMark rest with
          | none => exact Or.inr ⟨_, rfl, by simp [stripped], behind_mark rfl opened⟩
          | some before =>
              dsimp only
              by_cases first : before.1.length < parts.1.length
              · rw [if_pos first, if_pos first]
                exact Or.inl rfl
              · rw [if_neg first, if_neg first]
                exact Or.inr ⟨_, rfl, by simp [stripped], behind_mark rfl opened⟩

/-- Searching ends, at the latest when every two characters were a mark. -/
theorem ends_stripped (round : Round) :
    ∃ count, round.Ends count round.stripped ∧ 2 * count ≤ round.rest.length + 2 := by
  rcases round.search_cases with found | ⟨next, found, same, shorter⟩
  · exact ⟨1, .last found, by omega⟩
  · obtain ⟨count, ends, bound⟩ := ends_stripped next
    rw [same] at ends
    exact ⟨count + 1, .again found ends, by omega⟩
termination_by round.rest.length
decreasing_by omega

end Round

/--
Stripping the lines of a text one after the other is what the lexer makes of the whole text:
on every line both leave the same code, with one space for each block comment that closes
there, and agree on whether a block comment is open behind it.  On every line the searching
ends, whether a block comment is open before it or not.
-/
theorem strippedLines_eq_lexedLines (text : List Char) :
    strippedLines false (lines text) = lexedLines text ∧
      ∀ isOpen line, ∃ count, (Round.mk [] isOpen line).Ends count (strip isOpen line) ∧
        2 * count ≤ line.length + 2 := by
  constructor
  · have whole := Lexer.readText_behind false [] text
    rw [prepend_nil] at whole
    exact whole.symm
  · exact fun isOpen line => (Round.mk [] isOpen line).ends_stripped

/-- Marks do not overlap, and none reaches over a line break. -/
example : lexedLines "/*/ a **/ b //* c\n*/* d\r\ne *\n/ f */".toList =
    [⟨"  b ".toList, false⟩, ⟨"*".toList, true⟩, ⟨[], true⟩, ⟨" ".toList, false⟩] := by
  decide

end LiveShader.Source.Comment
