import LiveShader.Proofs.Fragment.Rendering

/-!
# Where the lines of an expansion come from

Every line of a combined text that no directive is a line of one of its files, and the
directives say which one.  They say its number as well, with one exception.  An include
line whose file was met before leaves no directive behind, so the lines after it are
attributed one line too high up, until the next file is entered.
-/

namespace LiveShader.Fragment

open LiveShader.Files LiveShader.Source LiveShader.Text

/-- Files that hold no directives and whose lines can be numbered with 32 bits. -/
structure Numbered (read : ReadText) : Prop where
  plain : ∀ path text, read path = .ok text →
    ∀ line ∈ Text.lines text.toList, Origin.directive? line 0 = none
  short : ∀ path text, read path = .ok text →
    (Text.lines text.toList).length + 1 < 4294967296

namespace Numbered

variable {read : ReadText} {path : Path} {text : String}

theorem plain_terminated (numbered : Numbered read) (readable : read path = .ok text) :
    ∀ line ∈ terminatedLines text.toList, Origin.directive? line 0 = none := by
  intro line member
  rw [← Origin.directive?_dropTerminator]
  exact numbered.plain path text readable _ (List.mem_map_of_mem member)

theorem short_terminated (numbered : Numbered read) (readable : read path = .ok text) :
    (terminatedLines text.toList).length + 1 < 4294967296 := by
  have short := numbered.short path text readable
  rw [Text.lines, List.length_map] at short
  exact short

end Numbered

/-! ## Places of lines -/

/-- A line of a file in a combined text. -/
structure Placed where
  file : Nat
  /-- The number of the line in its file. -/
  number : Nat
  /-- How many include lines were skipped since the last one whose file was entered. -/
  skipped : Nat
  line : List Char

namespace Placed

/-- The visit to the line. -/
def visit (placed : Placed) : Visit := ⟨placed.file, placed.number, placed.line⟩

/-- Where the line was written. -/
def written (placed : Placed) : Origin := ⟨placed.file.toUInt32, placed.number.toUInt32⟩

/-- Where the directives say that the line was written. -/
def attributed (placed : Placed) : Origin :=
  ⟨placed.file.toUInt32, (placed.number - placed.skipped).toUInt32⟩

/-- The line as it stands in the combined text, with its origin there. -/
def shown (placed : Placed) : List Char × Origin := (closeLine placed.line, placed.attributed)

end Placed

/-- The lines that a file has in its places, with their numbers. -/
def linesOf (file : Nat) (places : List Placed) : List (List Char × Nat) :=
  (places.filter fun place => place.file = file).map fun place => (place.line, place.number)

/-- The lines of a file that are no include lines, numbered from `number` on. -/
def keptLines (number : Nat) (lines : List (List Char)) : List (List Char × Nat) :=
  (lines.zipIdx number).filter fun (line, _) => (includedFile? line).isNone

theorem linesOf_eq (file : Nat) (places : List Placed) :
    linesOf file places =
      (Visit.ofFile file (places.map Placed.visit)).map fun visit =>
        (visit.line, visit.number) := by
  rw [linesOf, Visit.ofFile, List.filter_map, List.map_map]
  rfl

theorem keptLines_eq (file number : Nat) (lines : List (List Char)) :
    keptLines number lines = ((Visit.ofLines file number lines).filter Visit.isKept).map
      fun visit => (visit.line, visit.number) := by
  rw [Visit.ofLines, List.filter_map, List.map_map]
  exact (List.map_id _).symm

namespace Expansion

/--
The lines that an expansion keeps, in the order of the combined text, given the number
of the file, of the next file to be entered, of the first line, and of the include lines
skipped before it.
-/
def placed (file : Nat) : Nat → Nat → Nat → Expansion → List Placed
  | _, _, _, done => []
  | next, number, skipped, keep line rest =>
      ⟨file, number, skipped, line⟩ :: rest.placed file next (number + 1) skipped
  | next, number, skipped, skip _ rest => rest.placed file next (number + 1) (skipped + 1)
  | next, number, _, enter _ _ inside rest =>
      inside.placed next (next + 1) 1 0 ++
        rest.placed file (next + 1 + inside.entered.length) (number + 1) 0

/-! ## Reading the directives -/

theorem origin_next? {number skipped : Nat} (behind : skipped < number)
    (short : number + 1 < 4294967296) (file : UInt32) :
    (⟨file, (number - skipped).toUInt32⟩ : Origin).next? =
      some ⟨file, (number + 1 - skipped).toUInt32⟩ := by
  have later : number + 1 - skipped = number - skipped + 1 := by omega
  rw [Origin.next?_eq_some_iff, later]
  constructor
  · simp only [Nat.toUInt32, UInt32.toNat_ofNat']
    omega
  · simp

section Reading

variable {read : ReadText} {directory : Path}

/-- The directives attribute the lines of an expansion as their places say. -/
theorem attributedFrom_lines (numbered : Numbered read) {tree : Expansion}
    {met : List String} (follows : tree.Follows read directory met)
    (plain : ∀ line ∈ tree.sources, Origin.directive? line 0 = none)
    {file next number skipped : Nat} (behind : skipped < number)
    (short : number + tree.sources.length < 4294967296) (file_lt : file < 4294967296)
    (few : next + tree.entered.length ≤ 4294967296) :
    ∃ last, ∀ rest,
      Origin.attributedFrom ⟨file.toUInt32, (number - skipped).toUInt32⟩
          (tree.lines true file next number ++ rest) =
        (Origin.attributedFrom last rest).map
          ((tree.placed file next number skipped).map Placed.shown ++ ·) := by
  induction tree generalizing met file next number skipped with
  | done => exact ⟨_, fun rest => Option.map_id'.symm⟩
  | keep line tree ih =>
      have plainLine : Origin.directive? (closeLine line) 0 = none := by
        rw [directive?_closeLine]
        exact plain line List.mem_cons_self
      have fits : number + 1 + tree.sources.length < 4294967296 := by
        simp only [sources, List.length_cons] at short
        omega
      obtain ⟨last, rest⟩ := ih follows.2 (fun other member =>
        plain other (List.mem_cons_of_mem line member)) (Nat.lt_succ_of_lt behind) fits
        file_lt few
      refine ⟨last, fun more => ?_⟩
      rw [lines, List.cons_append,
        Origin.attributedFrom_of_plain plainLine (origin_next? behind (by omega) _), rest more,
        Option.map_map]
      rfl
  | skip line tree ih =>
      have fits : number + 1 + tree.sources.length < 4294967296 := by
        simp only [sources, List.length_cons] at short
        omega
      obtain ⟨last, rest⟩ := ih follows.2 (fun other member =>
        plain other (List.mem_cons_of_mem line member)) (Nat.succ_lt_succ behind) fits
        file_lt few
      refine ⟨last, fun more => ?_⟩
      have same : number + 1 - (skipped + 1) = number - skipped := by omega
      rw [same] at rest
      exact rest more
  | enter line name inside tree inner outer =>
      rcases follows with ⟨_, _, ⟨content, readable, contentLines⟩, followsInside, followsRest⟩
      simp only [sources, List.length_cons] at short
      simp only [entered, List.length_cons, List.length_append] at few
      have plainInside : ∀ line ∈ inside.sources, Origin.directive? line 0 = none := by
        rw [contentLines]
        exact numbered.plain_terminated readable
      have shortInside : 1 + inside.sources.length < 4294967296 := by
        rw [contentLines, Nat.add_comm]
        exact numbered.short_terminated readable
      have fewInside : next + 1 + inside.entered.length ≤ 4294967296 := by omega
      have fewRest :
          next + 1 + inside.entered.length + tree.entered.length ≤ 4294967296 := by omega
      have entering : next < 4294967296 := by omega
      obtain ⟨lastInside, restInside⟩ := inner followsInside plainInside Nat.zero_lt_one
        shortInside entering fewInside
      have started : 0 < number + 1 := Nat.succ_pos number
      obtain ⟨last, rest⟩ := outer followsRest (fun other member =>
        plain other (List.mem_cons_of_mem line member)) started (by omega) file_lt fewRest
      rw [Nat.sub_zero] at rest
      refine ⟨last, fun more => ?_⟩
      simp only [lines, directiveLines, if_true, List.cons_append, List.nil_append,
        List.append_assoc]
      rw [Origin.attributedFrom_lineDirective (by decide) entering, restInside,
        Origin.attributedFrom_lineDirective (by omega) file_lt, rest more, Option.map_map]
      simp [placed, Function.comp_def]

/-! ## The lines of one file -/

/-- The places of an expansion are its visits to the lines that are kept. -/
theorem map_visit_placed {tree : Expansion} {met : List String}
    (follows : tree.Follows read directory met) (file next number skipped : Nat) :
    (tree.placed file next number skipped).map Placed.visit =
      (tree.visits file next number).filter Visit.isKept := by
  induction tree generalizing met file next number skipped with
  | done => rfl
  | keep line tree ih =>
      have kept : Visit.isKept ⟨file, number, line⟩ = true := by simp [Visit.isKept, follows.1]
      rw [placed, visits, List.map_cons, ih follows.2, List.filter_cons_of_pos kept]
      rfl
  | skip line tree ih =>
      rcases follows with ⟨⟨name, _, included⟩, follows⟩
      have dropped : ¬ Visit.isKept ⟨file, number, line⟩ = true := by simp [Visit.isKept, included]
      rw [placed, visits, ih follows, List.filter_cons_of_neg dropped]
  | enter line name inside tree inner outer =>
      rcases follows with ⟨included, _, _, followsInside, followsRest⟩
      have dropped : ¬ Visit.isKept ⟨file, number, line⟩ = true := by simp [Visit.isKept, included]
      rw [placed, visits, List.filter_cons_of_neg dropped, List.map_append, List.filter_append,
        inner followsInside, outer followsRest]

/-- The kept lines of one file are those among its visits. -/
theorem linesOf_placed {tree : Expansion} {met : List String}
    (follows : tree.Follows read directory met) (file next number skipped other : Nat) :
    linesOf other (tree.placed file next number skipped) =
      ((Visit.ofFile other (tree.visits file next number)).filter Visit.isKept).map
        fun visit => (visit.line, visit.number) := by
  rw [linesOf_eq, map_visit_placed follows, Visit.ofFile, Visit.ofFile, List.filter_filter,
    List.filter_filter]
  congr 2
  funext visit
  exact Bool.and_comm _ _

/-- The lines of a file keep their order and their numbers, and none is lost. -/
theorem linesOf_own {tree : Expansion} {met : List String}
    (follows : tree.Follows read directory met) {file next : Nat} (older : file < next)
    (number skipped : Nat) :
    linesOf file (tree.placed file next number skipped) = keptLines number tree.sources := by
  rw [linesOf_placed follows, ofFile_own older, keptLines_eq file]

/-- Every file that was entered is one of the directory, and stands there with its lines. -/
theorem linesOf_entered {tree : Expansion} {met : List String}
    (follows : tree.Follows read directory met) {file next : Nat} (older : file < next)
    (number skipped : Nat) {index : Nat} {name : String}
    (found : tree.entered[index]? = some name) :
    ∃ text, read (Path.join directory name) = .ok text ∧
      linesOf (next + index) (tree.placed file next number skipped) =
        keptLines 1 (terminatedLines text.toList) := by
  obtain ⟨text, readable, equal⟩ := ofFile_entered follows older number found
  refine ⟨text, readable, ?_⟩
  rw [linesOf_placed follows, equal, keptLines_eq (next + index)]

/-- The numbers of lines fit, and fewer lines were skipped than passed. -/
theorem number_of_placed (numbered : Numbered read) {tree : Expansion} {met : List String}
    (follows : tree.Follows read directory met) {file next number skipped : Nat}
    (behind : skipped < number) (short : number + tree.sources.length < 4294967296)
    {place : Placed} (member : place ∈ tree.placed file next number skipped) :
    place.skipped < place.number ∧ place.number < 4294967296 := by
  induction tree generalizing met file next number skipped with
  | done => cases member
  | keep line tree ih =>
      simp only [sources, List.length_cons] at short
      rcases List.mem_cons.mp member with rfl | later
      · dsimp only
        omega
      · exact ih follows.2 (by omega) (by omega) later
  | skip line tree ih =>
      simp only [sources, List.length_cons] at short
      exact ih follows.2 (Nat.succ_lt_succ behind) (by omega) member
  | enter line name inside tree inner outer =>
      rcases follows with ⟨_, _, ⟨content, readable, contentLines⟩, followsInside, followsRest⟩
      simp only [sources, List.length_cons] at short
      rcases List.mem_append.mp member with within | later
      · have shortInside : 1 + inside.sources.length < 4294967296 := by
          rw [contentLines, Nat.add_comm]
          exact numbered.short_terminated readable
        exact inner followsInside Nat.zero_lt_one shortInside within
      · exact outer followsRest (Nat.succ_pos number) (by omega) later

end Reading

end Expansion

/-! ## Combined texts -/

/--
The lines of a combined text that are no directives, closed, with their origins, if it has
origins.
-/
def attributed (source : String) : Option (List (List Char × Origin)) :=
  (Origin.ofSource source.toList).map fun origins =>
    (((terminatedLines source.toList).map closeLine).zip origins).filterMap
      fun (line, origin) => origin.map (line, ·)

theorem attributed_eq (source : String) :
    attributed source =
      Origin.attributedFrom .start (terminatedLines (closeLine source.toList)) := by
  rw [attributed]
  rw [Origin.attributedFrom_eq, terminatedLines_closeLine, Origin.ofSource_eq,
    Origin.ofLinesFrom_congr directive?_closeLine]

/-- A line with an origin stands somewhere in the source. -/
theorem exists_position {source : String} {origins : List (Option Origin)}
    {listed : List (List Char × Origin)} (counted : Origin.ofSource source.toList = some origins)
    (read : attributed source = some listed) {line : List Char} {origin : Origin}
    (member : (line, origin) ∈ listed) :
    ∃ position : Nat,
      ((terminatedLines source.toList)[position]?).map closeLine = some line ∧
        origins[position]? = some (some origin) := by
  rw [attributed, counted] at read
  cases read
  obtain ⟨⟨found, given⟩, present, equal⟩ := List.mem_filterMap.mp member
  obtain ⟨position, bound, at'⟩ := List.mem_iff_getElem.mp present
  cases given with
  | none => cases equal
  | some given =>
      cases equal
      rw [List.getElem_zip, Prod.mk.injEq] at at'
      rw [List.length_zip, Nat.lt_min, List.length_map] at bound
      refine ⟨position, ?_, ?_⟩
      · rw [List.getElem?_eq_getElem bound.1, Option.map_some, ← at'.1, List.getElem_map]
      · rw [List.getElem?_eq_getElem bound.2, at'.2]

/-- The lines in front of the fragment with their origins. -/
def openingLines (header : Bool) : List (List Char × Origin) :=
  if header then
    (Origin.attributedFrom .start (terminatedLines fragmentHeader.toList)).getD []
  else []

theorem attributedFrom_header :
    Origin.attributedFrom .start (terminatedLines fragmentHeader.toList) =
      some (openingLines true) := by
  decide +kernel

/-- The fragment begins with its first line, whether or not there is a header. -/
theorem attributedFrom_opening (header : Bool) (rest : List (List Char)) :
    Origin.attributedFrom .start
        (terminatedLines (Options.opening ⟨header, true⟩) ++ rest) =
      (Origin.attributedFrom .start rest).map (openingLines header ++ ·) := by
  rw [terminatedLines_opening]
  cases header with
  | false => exact Option.map_id'.symm
  | true =>
      obtain ⟨last, follows⟩ := Origin.attributedFrom_append attributedFrom_header
      simp only [headerLines, directiveLines, if_true, Bool.and_self]
      rw [List.append_assoc, follows, List.singleton_append,
        Origin.attributedFrom_lineDirective (by decide) (by decide)]
      rfl

/-- The path of a file of a combined text. -/
def filePath (path : Path) : Nat → String → Path
  | 0, _ => path
  | _ + 1, name => Path.join (Path.directoryOf path) name

theorem Placed.attributed_eq_written_iff {place : Placed} (behind : place.skipped < place.number)
    (short : place.number < 4294967296) :
    place.attributed = place.written ↔ place.skipped = 0 := by
  constructor
  · intro equal
    have lines := congrArg (fun origin => origin.line.toNat) equal
    simp only [Placed.attributed, Placed.written, Nat.toUInt32, UInt32.toNat_ofNat'] at lines
    omega
  · intro none'
    simp [Placed.attributed, Placed.written, none']

/--
Which lines are attributed to the place where they were written.  A combined text with
directives consists of its header and the kept lines of its files: each of them once, in
the order of its file, and with an origin that names the right file.  The number of the
line is right exactly if no include line was skipped since the beginning of its file or
the last include line whose file was entered.  All lines of the text have origins.
-/
theorem origin_eq_written_iff {read : ReadText} {count : Nat} {header : Bool} {path : Path}
    {combined : Combined} (numbered : Numbered read)
    (made : combine read count ⟨header, true⟩ path = .ok combined)
    (few : combined.files.length ≤ 4294967296) :
    ∃ (tree : Expansion) (origins : List (Option Origin)),
      (∃ text, read path = .ok text ∧ tree.sources = terminatedLines text.toList) ∧
      tree.Follows read (Path.directoryOf path) [knownName path] ∧
      combined.files = knownName path :: tree.entered ∧
      Origin.ofSource combined.content.toList = some origins ∧
      attributed combined.content =
        some (openingLines header ++ (tree.placed 0 1 1 0).map Placed.shown) ∧
      (∀ file name, combined.files[file]? = some name →
        ∃ text, read (filePath path file name) = .ok text ∧
          linesOf file (tree.placed 0 1 1 0) = keptLines 1 (terminatedLines text.toList)) ∧
      ∀ place ∈ tree.placed 0 1 1 0,
        (∃ position : Nat,
          ((terminatedLines combined.content.toList)[position]?).map closeLine =
              some (closeLine place.line) ∧
            origins[position]? = some (some place.attributed)) ∧
        (place.attributed = place.written ↔ place.skipped = 0) := by
  rw [combine] at made
  split at made
  · cases made
  rename_i expanded expansion
  cases made
  obtain ⟨tree, record⟩ := expandFile_records _ expansion
  rcases record.sources with ⟨text, readable, sources⟩
  have files : expanded.files = knownName path :: tree.entered := record.files
  have cut : Cut tree.sources := by
    rw [sources]
    exact cut_terminatedLines text.toList
  have short : 1 + tree.sources.length < 4294967296 := by
    rw [sources, Nat.add_comm]
    exact numbered.short_terminated readable
  have enough : 1 + tree.entered.length ≤ 4294967296 := by
    dsimp only at few
    rw [files, List.length_cons] at few
    omega
  have plain : ∀ line ∈ tree.sources, Origin.directive? line 0 = none := by
    rw [sources]
    exact numbered.plain_terminated readable
  have content : attributed
      (String.ofList (Options.opening ⟨header, true⟩ ++ expanded.text)) =
        some (openingLines header ++ (tree.placed 0 1 1 0).map Placed.shown) := by
    have closed := closed_opening ⟨header, true⟩
    have text : expanded.text = tree.text true 0 1 1 := record.text
    have zero : 0 < 4294967296 := by decide
    obtain ⟨last, lines⟩ := tree.attributedFrom_lines numbered record.follows plain
      Nat.zero_lt_one short zero enough
    have all : Origin.attributedFrom .start (tree.lines true 0 1 1) =
        some ((tree.placed 0 1 1 0).map Placed.shown) := by
      have appended := lines []
      rw [List.append_nil] at appended
      exact appended.trans (congrArg some (List.append_nil _))
    rw [attributed_eq, String.toList_ofList, closeLine_append closed,
      terminatedLines_append closed, attributedFrom_opening, text,
      Expansion.terminatedLines_text record.follows cut, all]
    rfl
  obtain ⟨origins, counted, _⟩ := Option.map_eq_some_iff.mp content
  refine ⟨tree, origins, ⟨text, readable, sources⟩, record.follows, files, counted, content,
    ?_, ?_⟩
  · intro file name found
    dsimp only at found
    rw [files] at found
    rcases file with _ | file
    · refine ⟨text, readable, ?_⟩
      rw [← sources]
      exact Expansion.linesOf_own record.follows Nat.zero_lt_one 1 0
    · rw [List.getElem?_cons_succ] at found
      obtain ⟨text, readable, equal⟩ :=
        Expansion.linesOf_entered record.follows Nat.zero_lt_one 1 0 found
      refine ⟨text, readable, ?_⟩
      rw [Nat.add_comm file 1]
      exact equal
  · intro place member
    obtain ⟨behind, fits⟩ :=
      Expansion.number_of_placed numbered record.follows Nat.zero_lt_one short member
    refine ⟨exists_position counted content ?_, Placed.attributed_eq_written_iff behind fits⟩
    exact List.mem_append_right _ (List.mem_map_of_mem member)

/-- A fragment that includes one file twice. -/
def includedTwice : ReadText := fun path =>
  if path = "main.frag" then .ok "#include a\n#include a\nvoid main() \x7b\x7d\n"
  else if path = "a.glsl" then .ok "// a\n"
  else .error .notFound

theorem numbered_includedTwice : Numbered includedTwice where
  plain := by
    intro path text readable
    rw [includedTwice] at readable
    split at readable
    · cases readable
      decide
    · split at readable
      · cases readable
        decide
      · cases readable
  short := by
    intro path text readable
    rw [includedTwice] at readable
    split at readable
    · cases readable
      decide
    · split at readable
      · cases readable
        decide
      · cases readable

theorem combine_includedTwice :
    combine includedTwice 2 ⟨false, true⟩ "main.frag" =
      .ok ⟨"#line 1 1\n// a\n#line 2 0\nvoid main() \x7b\x7d\n", ["main.frag", "a.glsl"]⟩ :=
  rfl

/-- The places of its lines tell their origins. -/
theorem origins_includedTwice :
    Numbered includedTwice ∧ ∃ tree : Expansion,
      tree.Follows includedTwice "" ["main.frag"] ∧ tree.entered = ["a.glsl"] ∧
        attributed "#line 1 1\n// a\n#line 2 0\nvoid main() \x7b\x7d\n" =
          some ((tree.placed 0 1 1 0).map Placed.shown) := by
  refine ⟨numbered_includedTwice, ?_⟩
  obtain ⟨tree, _, _, follows, files, _, content, _⟩ :=
    origin_eq_written_iff numbered_includedTwice combine_includedTwice (by decide)
  exact ⟨tree, follows, (List.cons.inj files).2.symm, content⟩

/-- Its third line is its only kept one, and nothing is attributed to a third line. -/
theorem third_line_unattributed :
    Numbered includedTwice ∧ ∃ text combined,
      includedTwice "main.frag" = .ok text ∧
        combine includedTwice 2 ⟨false, true⟩ "main.frag" = .ok combined ∧
        combined.files[0]? = some "main.frag" ∧
        keptLines 1 (terminatedLines text.toList) =
          [("void main() \x7b\x7d\n".toList, 3)] ∧
        ∃ origins, Origin.ofSource combined.content.toList = some origins ∧
          ∀ position : Nat, origins[position]? ≠ some (some ⟨0, 3⟩) := by
  refine ⟨numbered_includedTwice, _, _, rfl, combine_includedTwice, rfl, by decide,
    [none, some ⟨1, 1⟩, none, some ⟨0, 2⟩], by decide, ?_⟩
  intro position equal
  have member := List.mem_of_getElem? equal
  revert member
  decide

end LiveShader.Fragment
