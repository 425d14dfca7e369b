import LiveShader.Proofs.Fragment.Closing
import LiveShader.Proofs.Fragment.Visits

/-!
# The lines of a combined text

The lines of an expansion are those that it keeps, each with a line feed, and a directive
in front of and behind every file that was entered, if directives were asked for.  Without
the directives there is nothing left but the kept lines, in the order in which they were
come to.
-/

namespace LiveShader.Fragment

open LiveShader.Files LiveShader.Source LiveShader.Text

/--
Files that hold no directives with numbers below a limit, and whose lines can be numbered
below it.
-/
structure Undirected (limit : Nat) (read : ReadText) : Prop where
  plain : ∀ path text, read path = .ok text →
    ∀ line ∈ terminatedLines text.toList, Origin.isDirective limit line = false
  short : ∀ path text, read path = .ok text → (terminatedLines text.toList).length + 1 < limit

/-- The line of a directive, if directives were asked for. -/
def directiveLines (directives : Bool) (number file : Nat) : List (List Char) :=
  if directives then [lineDirective number file] else []

/-- The kept lines among the visits, each with a line feed. -/
def keptText (visits : List Visit) : List (List Char) :=
  (visits.filter Visit.isKept).map fun visit => closeLine visit.line

theorem keptText_append (first second : List Visit) :
    keptText (first ++ second) = keptText first ++ keptText second := by
  simp [keptText]

theorem keptText_cons_kept {visit : Visit} (kept : includedFile? visit.line = none)
    (visits : List Visit) :
    keptText (visit :: visits) = closeLine visit.line :: keptText visits := by
  simp [keptText, Visit.isKept, kept]

theorem keptText_cons_included {visit : Visit} {name : String}
    (included : includedFile? visit.line = some name) (visits : List Visit) :
    keptText (visit :: visits) = keptText visits := by
  simp [keptText, Visit.isKept, included]

/-! ## In front of the fragment -/

/-- The lines of the header, if it was asked for. -/
def headerLines (header : Bool) : List (List Char) :=
  if header then terminatedLines fragmentHeader.toList else []

theorem closed_header : Closed fragmentHeader.toList := by
  right
  unfold fragmentHeader
  rw [String.toList_append, List.getLast?_append]
  rfl

theorem closed_opening (options : Options) : Closed options.opening := by
  rw [Options.opening]
  split
  · split
    · exact closed_header.append (ended_lineDirective 1 0).closed
    · exact closed_header.append (Or.inl rfl)
  · exact Or.inl rfl

theorem terminatedLines_opening (header directives : Bool) :
    terminatedLines (Options.opening ⟨header, directives⟩) =
      headerLines header ++ directiveLines (header && directives) 1 0 := by
  have first := ended_lineDirective 1 0
  cases header with
  | false => rfl
  | true =>
      simp only [Options.opening, headerLines, if_true, Bool.true_and]
      rw [terminatedLines_append closed_header]
      congr 1
      cases directives with
      | false => rfl
      | true => exact terminatedLines_of_ended first

/-! ## The lines of an expansion -/

namespace Expansion

/-- The lines of the text, each with a line feed. -/
def lines (directives : Bool) (file : Nat) : Nat → Nat → Expansion → List (List Char)
  | _, _, done => []
  | next, number, keep line rest =>
      closeLine line :: rest.lines directives file next (number + 1)
  | next, number, skip _ rest => rest.lines directives file next (number + 1)
  | next, number, enter _ _ inside rest =>
      directiveLines directives 1 next ++
        (inside.lines directives next (next + 1) 1 ++
          (directiveLines directives (number + 1) file ++
            rest.lines directives file (next + 1 + inside.entered.length) (number + 1)))

/-! ## Cutting the text -/

section Cutting

variable {read : ReadText} {directory : Path} {directives : Bool}

theorem sources_eq_nil {tree : Expansion} (empty : tree.sources = []) : tree = .done := by
  cases tree with
  | done => rfl
  | keep line rest => cases empty
  | skip line rest => cases empty
  | enter line name inside rest => cases empty

theorem cut_tail {line : List Char} {rest : List (List Char)} (cut : Cut (line :: rest)) :
    Cut rest := by
  rcases cut with ⟨_, cut⟩ | ⟨rfl, _⟩
  · exact cut
  · trivial

theorem closed_inlined (child parent number : Nat) (text : List Char) :
    Closed (inlined directives child parent number text) := by
  rw [inlined]
  split
  · exact ((ended_lineDirective 1 child).closed.append (closed_closeLine text)).append
      (ended_lineDirective (number + 1) parent).closed
  · exact closed_closeLine text

theorem terminatedLines_inlined (child parent number : Nat) (text : List Char) :
    terminatedLines (inlined directives child parent number text) =
      directiveLines directives 1 child ++ (terminatedLines (closeLine text) ++
        directiveLines directives (number + 1) parent) := by
  have first := ended_lineDirective 1 child
  have last := ended_lineDirective (number + 1) parent
  cases directives with
  | false => exact (List.append_nil _).symm
  | true =>
      rw [inlined]
      rw [if_pos rfl, List.append_assoc, terminatedLines_append first.closed,
        terminatedLines_of_ended first, terminatedLines_append (closed_closeLine text),
        terminatedLines_of_ended last]
      rfl

/-- The text of an expansion is cut into these lines. -/
theorem terminatedLines_text {tree : Expansion} {met : List String}
    (follows : tree.Follows read directory met) (cut : Cut tree.sources)
    (file next number : Nat) :
    terminatedLines (closeLine (tree.text directives file next number)) =
      tree.lines directives file next number := by
  induction tree generalizing met file next number with
  | done => rfl
  | keep line rest ih =>
      rcases follows with ⟨_, follows⟩
      rw [text, lines]
      -- Only the last line can lack its line feed, and nothing follows it.
      rcases cut with ⟨ended, cut⟩ | ⟨empty, full, open'⟩
      · rw [closeLine_append ended.closed, terminatedLines_append ended.closed,
          terminatedLines_of_ended ended, ih follows cut, closeLine_of_closed ended.closed]
        rfl
      · rw [sources_eq_nil empty, text, lines, List.append_nil,
          closeLine_of_open open' full]
        exact terminatedLines_of_ended ⟨line, open', rfl⟩
  | skip line rest ih =>
      rcases follows with ⟨_, follows⟩
      exact ih follows (cut_tail cut) file next (number + 1)
  | enter line name inside rest inner outer =>
      rcases follows with ⟨_, _, ⟨content, _, sources⟩, followsInside, followsRest⟩
      have cutInside : Cut inside.sources := by
        rw [sources]
        exact cut_terminatedLines content.toList
      have closed : Closed (inlined directives next file number
          (inside.text directives next (next + 1) 1)) := closed_inlined next file number _
      rw [text, lines, closeLine_append closed, terminatedLines_append closed,
        terminatedLines_inlined, inner followsInside cutInside,
        outer followsRest (cut_tail cut), List.append_assoc, List.append_assoc]

end Cutting

/-! ## Deleting the directives -/

section Deleting

variable {read : ReadText} {directory : Path} {limit : Nat}

/-- Without directives the lines are the ones that are kept. -/
theorem lines_bare {tree : Expansion} {met : List String}
    (follows : tree.Follows read directory met) (file next number : Nat) :
    tree.lines false file next number = keptText (tree.visits file next number) := by
  induction tree generalizing met file next number with
  | done => rfl
  | keep line rest ih =>
      rw [lines, visits, keptText_cons_kept follows.1, ih follows.2]
  | skip line rest ih =>
      rcases follows with ⟨⟨name, _, included⟩, follows⟩
      rw [lines, visits, keptText_cons_included included, ih follows]
  | enter line name inside rest inner outer =>
      rcases follows with ⟨included, _, _, followsInside, followsRest⟩
      rw [lines, visits, keptText_cons_included included, keptText_append, inner followsInside,
        outer followsRest]
      rfl

/-- The directives among the lines are the ones that were put in. -/
theorem filter_lines (undirected : Undirected limit read) {tree : Expansion} {met : List String}
    (follows : tree.Follows read directory met)
    (plain : ∀ line ∈ tree.sources, Origin.isDirective limit line = false)
    {file next number : Nat} (short : number + tree.sources.length < limit)
    (file_lt : file < limit) (few : next + tree.entered.length ≤ limit) :
    (tree.lines true file next number).filter (fun line => !Origin.isDirective limit line) =
      tree.lines false file next number := by
  induction tree generalizing met file next number with
  | done => rfl
  | keep line rest ih =>
      have plainLine : Origin.isDirective limit (closeLine line) = false := by
        rw [isDirective_closeLine]
        exact plain line List.mem_cons_self
      simp only [sources, List.length_cons] at short
      have fits : number + 1 + rest.sources.length < limit := by omega
      have later := ih follows.2 (fun other member =>
        plain other (List.mem_cons_of_mem line member)) fits file_lt few
      rw [lines, lines, List.filter_cons_of_pos (by simp [plainLine]), later]
  | skip line rest ih =>
      simp only [sources, List.length_cons] at short
      have fits : number + 1 + rest.sources.length < limit := by omega
      exact ih follows.2 (fun other member => plain other (List.mem_cons_of_mem line member))
        fits file_lt few
  | enter line name inside rest inner outer =>
      rcases follows with ⟨_, _, ⟨content, readable, contentLines⟩, followsInside, followsRest⟩
      simp only [sources, List.length_cons] at short
      simp only [entered, List.length_cons, List.length_append] at few
      have fits : number + 1 + rest.sources.length < limit := by omega
      have next_lt : next < limit := by omega
      have fewInside : next + 1 + inside.entered.length ≤ limit := by omega
      have fewLater : next + 1 + inside.entered.length + rest.entered.length ≤ limit := by omega
      have shortInside : 1 + inside.sources.length < limit := by
        rw [contentLines, Nat.add_comm]
        exact undirected.short _ _ readable
      have within := inner followsInside
        (by rw [contentLines]; exact undirected.plain _ _ readable) shortInside
        next_lt fewInside
      have later := outer followsRest (fun other member =>
        plain other (List.mem_cons_of_mem line member)) fits file_lt fewLater
      -- The numbers are below the limit, so what was put in is recognised as a directive.
      have opening : Origin.isDirective limit (lineDirective 1 next) = true :=
        Origin.isDirective_lineDirective (by omega) next_lt
      have closing : Origin.isDirective limit (lineDirective (number + 1) file) = true :=
        Origin.isDirective_lineDirective (by omega) file_lt
      rw [lines, lines, List.filter_append, List.filter_append, List.filter_append, within, later]
      simp [directiveLines, opening, closing]

end Deleting

end Expansion

end LiveShader.Fragment
