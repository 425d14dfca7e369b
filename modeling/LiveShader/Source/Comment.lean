import LiveShader.Text.Cut

/-!
# Code and comments

A line comment runs from `//` to the end of its line and a block comment from `/*`
to the next `*/`.  Whether a block comment is open is carried from one line to the
next.  Stripping a line leaves its code, with one space for each block comment
that closes on it.
-/

namespace LiveShader.Source.Comment

/-- Opens a line comment. -/
def lineMark : List Char := ['/', '/']

/-- Opens a block comment. -/
def openMark : List Char := ['/', '*']

/-- Closes a block comment. -/
def closeMark : List Char := ['*', '/']

/-- A line's code and whether a block comment is open after it. -/
structure Stripped where
  code : List Char
  isOpen : Bool
  deriving Repr, DecidableEq

theorem length_after? {lead text rest : List Char} (found : Text.after? lead text = some rest) :
    rest.length + lead.length = text.length := by
  induction lead generalizing text with
  | nil =>
      simp only [Text.after?, Option.some.injEq] at found
      simp [found]
  | cons l lead ih =>
      cases text with
      | nil => simp [Text.after?] at found
      | cons c text =>
          simp only [Text.after?] at found
          split at found
          · have := ih found
            simp only [List.length_cons]
            omega
          · simp at found

theorem length_cutAt? {mark text before rest : List Char}
    (found : Text.cutAt? mark text = some (before, rest)) :
    before.length + mark.length + rest.length = text.length := by
  induction text generalizing before with
  | nil =>
      simp only [Text.cutAt?] at found
      split at found
      · simp_all
      · simp at found
  | cons c text ih =>
      simp only [Text.cutAt?] at found
      split at found
      · rename_i rest' isAfter
        have := length_after? isAfter
        simp only [Option.some.injEq, Prod.mk.injEq] at found
        obtain ⟨rfl, rfl⟩ := found
        simp only [List.length_nil]
        omega
      · obtain ⟨⟨before', rest'⟩, cut, same⟩ := Option.map_eq_some_iff.1 found
        simp only [Prod.mk.injEq] at same
        obtain ⟨rfl, rfl⟩ := same
        have := ih cut
        simp only [List.length_cons]
        omega

/--
Removes the comments of a line, given whether a block comment is open before it.
The search jumps from one mark to the next.
-/
def strip (isOpen : Bool) (line : List Char) : Stripped :=
  if isOpen then
    match _cut : Text.cutAt? closeMark line with
    | none => ⟨[], true⟩
    | some (_, rest) =>
        let tail := strip false rest
        ⟨' ' :: tail.code, tail.isOpen⟩
  else
    match Text.cutAt? lineMark line, _cut : Text.cutAt? openMark line with
    | none, none => ⟨line, false⟩
    | some (before, _), none => ⟨before, false⟩
    | none, some (before, rest) =>
        let tail := strip true rest
        ⟨before ++ tail.code, tail.isOpen⟩
    | some (beforeLine, _), some (before, rest) =>
        if beforeLine.length < before.length then ⟨beforeLine, false⟩
        else
          let tail := strip true rest
          ⟨before ++ tail.code, tail.isOpen⟩
termination_by line.length
decreasing_by
  all_goals
    have := length_cutAt? _cut
    simp only [closeMark, openMark, List.length_cons, List.length_nil] at this
    omega

/--
What is left of a line whose code is dropped: the marks that keep comments before
and after it apart.
-/
def edges (openBefore openAfter : Bool) : List Char :=
  match openBefore, openAfter with
  | false, false => []
  | true, false => "*/".toList
  | false, true => "/*".toList
  | true, true => "*/ /*".toList

end LiveShader.Source.Comment
