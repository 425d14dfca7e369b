/-!
# Lines

A text is cut after every line feed.  The last line need not end in one, and an
empty text has no line.  The terminator of a line is a line feed, together with
a carriage return directly before it.
-/

namespace LiveShader.Text

/-- The lines of a text with their terminators; joined again they give the text. -/
def terminatedLines : List Char → List (List Char)
  | [] => []
  | c :: rest =>
      if c = '\n' then ['\n'] :: terminatedLines rest
      else
        match terminatedLines rest with
        | [] => [[c]]
        | line :: others => (c :: line) :: others

/-- A line without its terminator. -/
def dropTerminator (line : List Char) : List Char :=
  match line.reverse with
  | '\n' :: '\r' :: rest => rest.reverse
  | '\n' :: rest => rest.reverse
  | _ => line

/-- The lines of a text without their terminators. -/
def lines (text : List Char) : List (List Char) :=
  (terminatedLines text).map dropTerminator

/-- Lines as one text, each ended by a line feed. -/
def unlines (ls : List (List Char)) : List Char := ls.flatMap (· ++ ['\n'])

/-- Joining the terminated lines gives the text back. -/
theorem flatten_terminatedLines (text : List Char) :
    (terminatedLines text).flatten = text := by
  induction text with
  | nil => rfl
  | cons c rest ih =>
      simp only [terminatedLines]
      split
      · simp_all
      · split <;> simp_all

end LiveShader.Text
