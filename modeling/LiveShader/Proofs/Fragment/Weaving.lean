import LiveShader.Proofs.Fragment.Attribution

/-!
# What a combined text is woven from

A combined text holds every line of its files that includes no other file, and it holds it
once.  The lines of a file stand in its order and in the place of the first line that
includes it.  Directives do not change this: a text with directives holds the same lines,
and nothing else but its header and the directives that were put in.
-/

namespace LiveShader.Fragment

open LiveShader.Files LiveShader.Source LiveShader.Text

/-- The lines of a text, each with a line feed. -/
def closedLines (content : String) : List (List Char) :=
  (terminatedLines content.toList).map closeLine

/--
The order in which the lines of the files of a combined text are come to.  No file is
missing, each one is read from end to end, and it stands where it was first included.
-/
structure Woven (read : ReadText) (path : Path) (files : List String) (visits : List Visit) :
    Prop where
  main : files.head? = some (knownName path)
  distinct : files.Nodup
  known : ∀ visit ∈ visits, visit.file < files.length
  included : ∀ visit ∈ visits, ∀ name, includedFile? visit.line = some name → name ∈ files
  lines : ∀ file name, files[file]? = some name →
    ∃ text, read (filePath path file name) = .ok text ∧
      Visit.ofFile file visits = Visit.ofLines file 1 (terminatedLines text.toList)
  entered : ∀ file name, files[file + 1]? = some name →
    StandsAtFirstInclude (file + 1) name visits

section Record

variable {read : ReadText} {directives : Bool} {path : Path} {expanded : Expanded}
  {tree : Expansion}

/-- The lines that an expanded file comes to, itself in front of all others. -/
theorem RecordsFile.woven (record : RecordsFile read directives [] path expanded tree) :
    Woven read path (knownName path :: tree.entered) (tree.visits 0 1 1) where
  main := rfl
  distinct := record.follows.nodup (by simp)
  known := by
    intro visit member
    rw [List.length_cons]
    rcases Expansion.file_of_visit member with same | ⟨_, high⟩
    · omega
    · omega
  included := fun visit member name names =>
    Expansion.included_of_visit record.follows member names
  lines := by
    intro file name found
    rcases file with _ | file
    · obtain ⟨text, readable, sources⟩ := record.sources
      refine ⟨text, readable, ?_⟩
      rw [← sources]
      exact Expansion.ofFile_own Nat.zero_lt_one
    · rw [List.getElem?_cons_succ] at found
      obtain ⟨text, readable, equal⟩ :=
        Expansion.ofFile_entered record.follows Nat.zero_lt_one 1 found
      refine ⟨text, readable, ?_⟩
      rw [Nat.add_comm file 1]
      exact equal
  entered := by
    intro file name found
    rw [List.getElem?_cons_succ] at found
    rw [Nat.add_comm file 1]
    exact Expansion.stands_entered record.follows (by simp) Nat.zero_lt_one 1 found

/-- What was expanded in one way is expanded in another one as well, along the same tree. -/
theorem RecordsFile.combine_eq (record : RecordsFile read directives [] path expanded tree)
    {count : Nat} (lasts : tree.depth < count + 1) (options : Options) :
    combine read count options path =
      .ok ⟨String.ofList (options.opening ++ tree.text options.directives 0 1 1),
        knownName path :: tree.entered⟩ := by
  have other : RecordsFile read options.directives [] path
      ⟨tree.text options.directives 0 1 1, knownName path :: tree.entered⟩ tree :=
    ⟨record.sources, record.follows, rfl, rfl⟩
  rw [combine, expandFile_of_records other lasts]

/-- The lines of a combined text are those of its header and of the expansion. -/
theorem RecordsFile.closedLines_eq (record : RecordsFile read directives [] path expanded tree)
    (options : Options) :
    closedLines (String.ofList (options.opening ++ tree.text options.directives 0 1 1)) =
      headerLines options.header ++ (directiveLines (options.header && options.directives) 1 0 ++
        tree.lines options.directives 0 1 1) := by
  have cut : Cut tree.sources := by
    obtain ⟨text, _, sources⟩ := record.sources
    rw [sources]
    exact cut_terminatedLines text.toList
  rw [closedLines, String.toList_ofList, ← terminatedLines_closeLine,
    closeLine_append (closed_opening options), terminatedLines_append (closed_opening options),
    terminatedLines_opening, Expansion.terminatedLines_text record.follows cut,
    List.append_assoc]

/-- Without its directives an expansion is what it is when it is made without them. -/
theorem RecordsFile.filter_lines (record : RecordsFile read directives [] path expanded tree)
    {limit : Nat} (undirected : Undirected limit read)
    (few : (knownName path :: tree.entered).length ≤ limit) (header : Bool) :
    (directiveLines header 1 0 ++ tree.lines true 0 1 1).filter
        (fun line => !Origin.isDirective limit line) =
      keptText (tree.visits 0 1 1) := by
  obtain ⟨text, readable, sources⟩ := record.sources
  have short : 1 + tree.sources.length < limit := by
    rw [sources, Nat.add_comm]
    exact undirected.short _ _ readable
  have enough : 1 + tree.entered.length ≤ limit := by
    rw [List.length_cons] at few
    omega
  have plain : ∀ line ∈ tree.sources, Origin.isDirective limit line = false := by
    rw [sources]
    exact undirected.plain _ _ readable
  have one_lt : 1 < limit := by omega
  have zero_lt : 0 < limit := by omega
  have first : Origin.isDirective limit (lineDirective 1 0) = true :=
    Origin.isDirective_lineDirective one_lt zero_lt
  have gone : (directiveLines header 1 0).filter
      (fun line => !Origin.isDirective limit line) = [] := by
    cases header <;> simp [directiveLines, first]
  rw [List.filter_append, gone, List.nil_append,
    Expansion.filter_lines undirected record.follows plain short zero_lt enough,
    Expansion.lines_bare record.follows]

end Record

/--
A combined text neither loses nor repeats a line.  If a fragment can be combined at all,
the lines of the text without header and directives are the lines of its files that include
no other file, woven together; and with directives they are the same ones, when those of
the header and all directives are deleted.
-/
theorem closedLines_eq_keptText {read : ReadText} {count : Nat} {options : Options} {path : Path}
    {found : Combined} (made : combine read count options path = .ok found) :
    ∃ visits, Woven read path found.files visits ∧
      (∃ bare, combine read count ⟨false, false⟩ path = .ok bare ∧
        bare.files = found.files ∧ closedLines bare.content = keptText visits) ∧
      ∀ limit, Undirected limit read → found.files.length ≤ limit → ∀ header,
        ∃ marked rest, combine read count ⟨header, true⟩ path = .ok marked ∧
          marked.files = found.files ∧ closedLines marked.content = headerLines header ++ rest ∧
          rest.filter (fun line => !Origin.isDirective limit line) = keptText visits := by
  rw [combine] at made
  split at made
  · cases made
  rename_i expanded expansion
  cases made
  obtain ⟨tree, record, lasts⟩ := expandFile_bounded _ expansion
  have files : expanded.files = knownName path :: tree.entered := record.files
  rw [files]
  refine ⟨tree.visits 0 1 1, record.woven, ⟨_, record.combine_eq lasts ⟨false, false⟩, rfl, ?_⟩,
    ?_⟩
  · rw [record.closedLines_eq ⟨false, false⟩]
    exact Expansion.lines_bare record.follows 0 1 1
  · intro limit undirected few header
    refine ⟨_, _, record.combine_eq lasts ⟨header, true⟩, rfl,
      record.closedLines_eq ⟨header, true⟩, ?_⟩
    rw [Bool.and_true]
    exact record.filter_lines undirected few header

/-- A fragment with a file that only includes another one, which includes it in turn. -/
def includedInTurn : ReadText := fun path =>
  if path = "main.frag" then .ok "#include a\n#include b\nvoid main() \x7b\x7d"
  else if path = "a.glsl" then .ok "#include b"
  else if path = "b.glsl" then .ok "// b\n#include a\nfloat b;"
  else .error .notFound

/-- The texts of these files. -/
def includedInTurnTexts : List String :=
  ["#include a\n#include b\nvoid main() \x7b\x7d", "#include b", "// b\n#include a\nfloat b;"]

theorem mem_of_includedInTurn {path : Path} {text : String}
    (readable : includedInTurn path = .ok text) : text ∈ includedInTurnTexts := by
  rw [includedInTurn] at readable
  split at readable
  · cases readable
    decide
  · split at readable
    · cases readable
      decide
    · split at readable
      · cases readable
        decide
      · cases readable

/-- There is no directive among them. -/
theorem undirected_includedInTurn : Undirected 4294967296 includedInTurn where
  plain := by
    have texts : ∀ text ∈ includedInTurnTexts, ∀ line ∈ terminatedLines text.toList,
        Origin.isDirective 4294967296 line = false := by decide
    exact fun path text readable => texts text (mem_of_includedInTurn readable)
  short := by
    have texts : ∀ text ∈ includedInTurnTexts,
        (terminatedLines text.toList).length + 1 < 4294967296 := by decide
    exact fun path text readable => texts text (mem_of_includedInTurn readable)

/-- Its combined text, taken apart into the three files. -/
theorem closedLines_includedInTurn :
    combine includedInTurn 3 ⟨false, false⟩ "main.frag" =
        .ok ⟨"// b\nfloat b;\nvoid main() \x7b\x7d", ["main.frag", "a.glsl", "b.glsl"]⟩ ∧
      Undirected 4294967296 includedInTurn ∧
      ∃ visits, Woven includedInTurn "main.frag" ["main.frag", "a.glsl", "b.glsl"] visits ∧
        keptText visits = ["// b\n".toList, "float b;\n".toList, "void main() \x7b\x7d\n".toList] ∧
        ∃ marked, combine includedInTurn 3 ⟨false, true⟩ "main.frag" = .ok marked ∧
          (closedLines marked.content).filter
              (fun line => !Origin.isDirective 4294967296 line) = keptText visits := by
  have made : combine includedInTurn 3 ⟨false, false⟩ "main.frag" =
      .ok ⟨"// b\nfloat b;\nvoid main() \x7b\x7d", ["main.frag", "a.glsl", "b.glsl"]⟩ := rfl
  obtain ⟨visits, woven, ⟨bare, again, _, lines⟩, directed⟩ := closedLines_eq_keptText made
  cases made.symm.trans again
  refine ⟨made, undirected_includedInTurn, visits, woven, lines.symm.trans (by decide), ?_⟩
  obtain ⟨marked, rest, marking, _, cut, deleted⟩ :=
    directed 4294967296 undirected_includedInTurn (by decide) false
  refine ⟨marked, marking, ?_⟩
  rw [cut]
  exact deleted

end LiveShader.Fragment
