import LiveShader.Fragment.Expansion
import LiveShader.Proofs.Source.Origin

/-!
# Closed texts

Closing a text ends its last line and changes nothing else: it has the same lines, and
the same of them are directives.
-/

namespace LiveShader.Fragment

open LiveShader.Source LiveShader.Text

variable {text line rest : List Char}

theorem closeLine_of_closed (closed : Closed text) : closeLine text = text := by
  rcases closed with rfl | last
  · rfl
  · simp [closeLine, last]

theorem closeLine_of_open (open' : '\n' ∉ line) (full : line ≠ []) :
    closeLine line = line ++ ['\n'] := by
  rw [closeLine]
  split
  · rename_i none'
    exact absurd (List.getLast?_eq_none_iff.mp none') full
  · rename_i last
    exact absurd (List.mem_of_getLast? last) open'
  · rfl

theorem closed_closeLine (text : List Char) : Closed (closeLine text) := by
  rw [closeLine]
  split
  · exact Or.inl rfl
  · right
    assumption
  · right
    simp

theorem closeLine_append (closed : Closed text) (rest : List Char) :
    closeLine (text ++ rest) = text ++ closeLine rest := by
  by_cases empty : rest = []
  · rw [empty, List.append_nil, closeLine_of_closed closed]
    exact (List.append_nil text).symm
  · have last : (text ++ rest).getLast? = rest.getLast? := by
      rw [List.getLast?_append]
      cases equal : rest.getLast? with
      | none => exact absurd (List.getLast?_eq_none_iff.mp equal) empty
      | some c => rfl
    simp only [closeLine]
    rw [last]
    split
    · rename_i none'
      exact absurd (List.getLast?_eq_none_iff.mp none') empty
    · rfl
    · exact List.append_assoc text rest ['\n']

theorem ended_lineDirective (number file : Nat) : Ended (lineDirective number file) := by
  refine ⟨"#line".toList ++ ' ' :: (Nat.toDigits 10 number ++ ' ' :: Nat.toDigits 10 file), ?_, ?_⟩
  · have noFeed : ∀ n, '\n' ∉ Nat.toDigits 10 n := by
      intro n member
      have solid := Origin.isBlank_of_mem_toDigits member
      cases solid
    simp [noFeed]
  · rw [Origin.lineDirective_eq]
    simp

/-- Closing a text closes its lines. -/
theorem terminatedLines_closeLine (text : List Char) :
    terminatedLines (closeLine text) = (terminatedLines text).map closeLine := by
  suffices general : ∀ lines, Cut lines →
      terminatedLines (closeLine lines.flatten) = lines.map closeLine by
    have equal := general _ (cut_terminatedLines text)
    rw [flatten_terminatedLines] at equal
    exact equal
  intro lines cut
  induction lines with
  | nil => rfl
  | cons line rest ih =>
      rcases cut with ⟨ended, cut⟩ | ⟨rfl, full, open'⟩
      · rw [List.flatten_cons, closeLine_append ended.closed,
          terminatedLines_append ended.closed, terminatedLines_of_ended ended, ih cut,
          List.map_cons, closeLine_of_closed ended.closed]
        rfl
      · have closed : Ended (line ++ ['\n']) := ⟨line, open', rfl⟩
        simp only [List.flatten_cons, List.flatten_nil, List.append_nil, List.map_cons,
          List.map_nil]
        rw [closeLine_of_open open' full, terminatedLines_of_ended closed]

/-- Closing a line adds a blank, if anything. -/
theorem closeLine_eq (line : List Char) :
    ∃ blanks, Blanks blanks ∧ closeLine line = line ++ blanks := by
  rw [closeLine]
  split
  · rename_i none'
    exact ⟨[], blanks_nil, by rw [List.getLast?_eq_none_iff.mp none']; rfl⟩
  · exact ⟨[], blanks_nil, (List.append_nil line).symm⟩
  · exact ⟨['\n'], blanks_nil.cons rfl, rfl⟩

theorem directive?_closeLine (line : List Char) (file : UInt32) :
    Origin.directive? (closeLine line) file = Origin.directive? line file := by
  obtain ⟨blanks, all, equal⟩ := closeLine_eq line
  rw [equal]
  exact Origin.directive?_append line all file

theorem isDirective_closeLine (limit : Nat) (line : List Char) :
    Origin.isDirective limit (closeLine line) = Origin.isDirective limit line := by
  obtain ⟨blanks, all, equal⟩ := closeLine_eq line
  rw [equal]
  exact Origin.isDirective_append limit line all

end LiveShader.Fragment
