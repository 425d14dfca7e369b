import LiveShader.Proofs.Text.Blank
import LiveShader.Text.Lines

/-!
# Texts and their lines

A text whose last line is ended can be followed by another text, and the lines of both
stay what they are.  The terminator of a line consists of blanks.  A character in front of a
text either ends an empty line or stands in front of the first line.
-/

namespace LiveShader.Text

variable {text line body rest : List Char}

/-- A text that is empty or ends with a line feed. -/
def Closed (text : List Char) : Prop := text = [] ∨ text.getLast? = some '\n'

/-- A line with its line feed. -/
def Ended (line : List Char) : Prop := ∃ body, '\n' ∉ body ∧ line = body ++ ['\n']

/-- Lines as they are cut from a text: only the last one may lack its line feed. -/
def Cut : List (List Char) → Prop
  | [] => True
  | line :: rest => Ended line ∧ Cut rest ∨ rest = [] ∧ line ≠ [] ∧ '\n' ∉ line

theorem Ended.closed (ended : Ended line) : Closed line := by
  rcases ended with ⟨body, _, rfl⟩
  right
  simp

theorem Closed.append {first second : List Char} (closed₁ : Closed first)
    (closed₂ : Closed second) : Closed (first ++ second) := by
  rcases closed₂ with rfl | last
  · rw [List.append_nil]
    exact closed₁
  · right
    rw [List.getLast?_append, last]
    rfl

theorem closed_of_cons {c : Char} (closed : Closed (c :: text)) : Closed text := by
  cases text with
  | nil => exact Or.inl rfl
  | cons d text =>
      rcases closed with empty | last
      · cases empty
      · right
        rw [← last]
        simp

/-! ## Cutting -/

theorem terminatedLines_ne_nil (c : Char) (text : List Char) :
    terminatedLines (c :: text) ≠ [] := by
  rw [terminatedLines]
  split
  · simp
  · split <;> simp

theorem terminatedLines_append (closed : Closed text) (rest : List Char) :
    terminatedLines (text ++ rest) = terminatedLines text ++ terminatedLines rest := by
  induction text with
  | nil => rfl
  | cons c text ih =>
      have cut := ih (closed_of_cons closed)
      by_cases feed : c = '\n'
      · simp [terminatedLines, feed, cut]
      · cases text with
        | nil =>
            rcases closed with empty | last
            · cases empty
            · exact absurd (Option.some.inj last) feed
        | cons d text =>
            cases equal : terminatedLines (d :: text) with
            | nil => exact absurd equal (terminatedLines_ne_nil d text)
            | cons first others =>
                rw [equal] at cut
                rw [List.cons_append, terminatedLines, if_neg feed, cut, terminatedLines,
                  if_neg feed, equal]
                rfl

theorem terminatedLines_of_ended (ended : Ended line) : terminatedLines line = [line] := by
  rcases ended with ⟨body, plain, rfl⟩
  induction body with
  | nil => rfl
  | cons c body ih =>
      obtain ⟨differs, rest⟩ := List.ne_and_not_mem_of_not_mem_cons plain
      have feed : c ≠ '\n' := Ne.symm differs
      rw [List.cons_append, terminatedLines, if_neg feed, ih rest]

theorem cut_terminatedLines (text : List Char) : Cut (terminatedLines text) := by
  induction text with
  | nil => trivial
  | cons c text ih =>
      by_cases feed : c = '\n'
      · rw [terminatedLines, if_pos feed]
        exact Or.inl ⟨⟨[], by simp, rfl⟩, ih⟩
      · rw [terminatedLines, if_neg feed]
        have differs : '\n' ≠ c := Ne.symm feed
        cases equal : terminatedLines text with
        | nil => exact Or.inr ⟨rfl, by simp, by simpa using differs⟩
        | cons line others =>
            rw [equal] at ih
            rcases ih with ⟨⟨body, plain, rfl⟩, rest⟩ | ⟨rfl, full, plain⟩
            · refine Or.inl ⟨⟨c :: body, ?_, rfl⟩, rest⟩
              exact List.not_mem_cons_of_ne_of_not_mem differs plain
            · exact Or.inr ⟨rfl, by simp, List.not_mem_cons_of_ne_of_not_mem differs plain⟩

/-- Lines that are written out are cut again where they were joined. -/
theorem terminatedLines_unlines {ls : List (List Char)} (single : ∀ line ∈ ls, '\n' ∉ line) :
    terminatedLines (unlines ls) = ls.map (· ++ ['\n']) := by
  induction ls with
  | nil => rfl
  | cons line rest ih =>
      have ended : Ended (line ++ ['\n']) := ⟨line, single line List.mem_cons_self, rfl⟩
      have below := ih fun other member => single other (List.mem_cons_of_mem line member)
      rw [unlines] at below ⊢
      rw [List.flatMap_cons, terminatedLines_append ended.closed,
        terminatedLines_of_ended ended, below]
      rfl

/-! ## Terminators -/

/-- Dropping the terminator of a line drops blanks only. -/
theorem dropTerminator_append (line : List Char) :
    ∃ blanks, Blanks blanks ∧ dropTerminator line ++ blanks = line := by
  rw [dropTerminator]
  split
  · rename_i rest equal
    refine ⟨['\r', '\n'], by simp [Blanks, isBlank], ?_⟩
    rw [← List.reverse_inj, equal]
    simp
  · rename_i rest _ equal
    refine ⟨['\n'], by simp [Blanks, isBlank], ?_⟩
    rw [← List.reverse_inj, equal]
    simp
  · exact ⟨[], by simp [Blanks], by simp⟩

theorem dropTerminator_ended (body : List Char) :
    ∃ blanks, Blanks blanks ∧ dropTerminator (body ++ ['\n']) ++ blanks = body := by
  have reversed : (body ++ ['\n']).reverse = '\n' :: body.reverse := by simp
  rw [dropTerminator, reversed]
  split
  · rename_i rest equal
    refine ⟨['\r'], blanks_nil.cons rfl, ?_⟩
    rw [← List.reverse_inj, (List.cons.inj equal).2]
    simp
  · rename_i rest _ equal
    refine ⟨[], blanks_nil, ?_⟩
    rw [List.append_nil, ← (List.cons.inj equal).2, List.reverse_reverse]
  · rename_i _ unended
    exact absurd rfl (unended body.reverse)

theorem dropTerminator_of_single (single : '\n' ∉ line) : dropTerminator line = line := by
  rw [dropTerminator]
  split
  · rename_i shape
    exact absurd (List.mem_reverse.mp (shape ▸ List.mem_cons_self)) single
  · rename_i shape
    exact absurd (List.mem_reverse.mp (shape ▸ List.mem_cons_self)) single
  · rfl

theorem Cut.mem {ls : List (List Char)} (cut : Cut ls) (member : line ∈ ls) :
    Ended line ∨ '\n' ∉ line := by
  induction ls with
  | nil => cases member
  | cons first rest ih =>
      rcases cut with ⟨ended, later⟩ | ⟨rfl, _, single⟩
      · rcases List.mem_cons.mp member with rfl | present
        · exact Or.inl ended
        · exact ih later present
      · rw [List.mem_singleton.mp member]
        exact Or.inr single

/-- The lines of a text have no line feed. -/
theorem noFeed_of_mem_lines (member : line ∈ lines text) : '\n' ∉ line := by
  obtain ⟨terminated, present, rfl⟩ := List.mem_map.mp member
  rcases (cut_terminatedLines text).mem present with ⟨body, single, rfl⟩ | single
  · rw [dropTerminator]
    split
    · rename_i rest equal
      have shape : body.reverse = '\r' :: rest := by simpa using equal
      intro feed
      apply single
      rw [← List.mem_reverse, shape]
      exact List.mem_cons_of_mem _ (List.mem_reverse.mp feed)
    · rename_i rest _ equal
      have shape : body.reverse = rest := by simpa using equal
      rwa [← shape, List.reverse_reverse]
    · rename_i _ unended
      exact absurd (by simp) (unended body.reverse)
  · intro feed
    obtain ⟨blanks, _, equal⟩ := dropTerminator_append terminated
    exact single (equal ▸ List.mem_append_left blanks feed)

/-! ## Character by character -/

/-- Lines with a text in front of the first one. -/
def prepend (front : List Char) : List (List Char) → List (List Char)
  | [] => if front.isEmpty then [] else [front]
  | line :: rest => (front ++ line) :: rest

theorem prepend_nil (ls : List (List Char)) : prepend [] ls = ls := by
  cases ls <;> rfl

theorem prepend_prepend (front : List Char) (c : Char) (ls : List (List Char)) :
    prepend front (prepend [c] ls) = prepend (front ++ [c]) ls := by
  cases ls with
  | nil => simp [prepend]
  | cons line rest => simp [prepend]

theorem terminatedLines_cons {c : Char} (solid : c ≠ '\n') (rest : List Char) :
    terminatedLines (c :: rest) = prepend [c] (terminatedLines rest) := by
  rw [terminatedLines, if_neg solid]
  cases terminatedLines rest <;> rfl

/-- A character that does not belong to the terminator stays in front of the line. -/
theorem dropTerminator_cons {c : Char} (solid : c ≠ '\n') (inner : c = '\r' → line ≠ ['\n']) :
    dropTerminator (c :: line) = c :: dropTerminator line := by
  obtain ⟨back, rfl⟩ : ∃ back : List Char, line = back.reverse :=
    ⟨line.reverse, (List.reverse_reverse line).symm⟩
  rw [dropTerminator, dropTerminator, List.reverse_cons, List.reverse_reverse]
  -- a terminator is recognised from the end of the line
  cases back with
  | nil => simp [solid]
  | cons last front =>
      by_cases fed : last = '\n'
      · subst fed
        cases front with
        | nil =>
            have plain : c ≠ '\r' := fun returned => inner returned rfl
            simp [plain]
        | cons before front =>
            by_cases returned : before = '\r' <;> simp [returned]
      · simp [fed]

theorem lines_feed (rest : List Char) : lines ('\n' :: rest) = [] :: lines rest := by
  simp [lines, terminatedLines, dropTerminator]

theorem lines_returnFeed (rest : List Char) : lines ('\r' :: '\n' :: rest) = [] :: lines rest := by
  simp [lines, terminatedLines, dropTerminator]

/-- A character that does not begin a line break stands in front of the lines behind it. -/
theorem lines_cons {c : Char} (solid : c ≠ '\n') (inner : c = '\r' → rest.head? ≠ some '\n') :
    lines (c :: rest) = prepend [c] (lines rest) := by
  rw [lines, lines, terminatedLines_cons solid]
  cases cut : terminatedLines rest with
  | nil => simp [prepend, dropTerminator, solid]
  | cons line others =>
      have unbroken : c = '\r' → line ≠ ['\n'] := by
        rintro returned rfl
        apply inner returned
        rw [← flatten_terminatedLines rest, cut]
        rfl
      rw [prepend, List.map_cons, List.map_cons, prepend, List.singleton_append,
        dropTerminator_cons solid unbroken]
      rfl

end LiveShader.Text
