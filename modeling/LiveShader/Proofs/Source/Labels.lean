import LiveShader.Proofs.Source.Counting
import LiveShader.Source.Annotated

/-!
# Labels of annotated lines

An annotated source has one line for each line of the source, with a label in a column of its
own.  Nothing is lost: the source line stands behind the label as it was, the label of a
directive is empty, and any other label is read back as the origin of its line.  So lines of
different origins have different labels.  A source whose lines are not counted is not
annotated.
-/

namespace LiveShader.Source

open LiveShader.Text

/-! ## Reading labels -/

/-- Reads a label: a number is a line of file 0, two numbers are a file and a line of it. -/
def readLabel? (label : List Char) : Option Origin :=
  match pieces (· == ':') label with
  | [line] => (Origin.number? line).map fun number => ⟨0, number⟩
  | [file, line] =>
      match Origin.number? file, Origin.number? line with
      | some other, some number => some ⟨other, number⟩
      | _, _ => none
  | _ => none

/-- A 32-bit number in decimal. -/
def numeral (number : UInt32) : List Char := Nat.toDigits 10 number.toNat

theorem isDigit_of_mem_numeral {number : UInt32} {c : Char} (member : c ∈ numeral number) :
    c.isDigit = true :=
  Nat.isDigit_of_mem_toDigits (by decide) (by decide) member

theorem number?_numeral (number : UInt32) : Origin.number? (numeral number) = some number := by
  rw [Origin.number?, numeral, Number.readUInt32?_toDigits (UInt32.toNat_lt number)]
  exact congrArg some UInt32.ofNat_toNat

theorem solid_numeral (number : UInt32) : ∀ c ∈ numeral number, (c == ':') = false := by
  intro c member
  have digit := isDigit_of_mem_numeral member
  apply beq_false_of_ne
  rintro rfl
  cases digit

theorem readLabel?_line (number : UInt32) : readLabel? (numeral number) = some ⟨0, number⟩ := by
  rw [readLabel?, pieces_of_solid (solid_numeral number)]
  dsimp only
  rw [number?_numeral]
  rfl

theorem readLabel?_file (file number : UInt32) :
    readLabel? (numeral file ++ ':' :: numeral number) = some ⟨file, number⟩ := by
  rw [readLabel?, pieces_append_cons (solid_numeral file) rfl,
    pieces_of_solid (solid_numeral number)]
  dsimp only
  rw [number?_numeral, number?_numeral]

/-! ## Labels -/

theorem toList_lineLabel (origin : Origin) : origin.lineLabel.toList = numeral origin.line := by
  simp [Origin.lineLabel, numeral, Nat.toString_eq_repr, Nat.toList_repr]

theorem toList_label (origin : Origin) :
    origin.label.toList = numeral origin.file ++ ':' :: numeral origin.line := by
  simp [Origin.label, numeral, String.toList_append, Nat.toString_eq_repr, Nat.toList_repr]

theorem hasSeveralFiles_iff (origins : List (Option Origin)) :
    hasSeveralFiles origins = true ↔ ∃ origin, some origin ∈ origins ∧ origin.file ≠ 0 := by
  rw [hasSeveralFiles, List.any_eq_true]
  constructor
  · rintro ⟨entry, member, other⟩
    cases entry with
    | none => cases other
    | some origin => exact ⟨origin, member, by simpa using other⟩
  · rintro ⟨origin, member, other⟩
    exact ⟨some origin, member, by simpa using other⟩

theorem file_eq_zero {origins : List (Option Origin)} (single : hasSeveralFiles origins = false)
    {origin : Origin} (member : some origin ∈ origins) : origin.file = 0 := by
  by_contra other
  rw [(hasSeveralFiles_iff origins).mpr ⟨origin, member, other⟩] at single
  cases single

/-- The labels of lines with these origins. -/
def lineLabels (origins : List (Option Origin)) : List (List Char) :=
  origins.map fun origin => (annotationLabel (hasSeveralFiles origins) origin).toList

section Labels

variable {origins : List (Option Origin)}

theorem getElem?_lineLabels {index : Nat} {origin : Option Origin}
    (entry : origins[index]? = some origin) :
    (lineLabels origins)[index]? =
      some (annotationLabel (hasSeveralFiles origins) origin).toList := by
  rw [lineLabels, List.getElem?_map, entry, Option.map_some]

/-- A label is read back as the origin of its line. -/
theorem readLabel?_annotationLabel {origin : Option Origin} (member : origin ∈ origins) :
    readLabel? (annotationLabel (hasSeveralFiles origins) origin).toList = origin := by
  cases origin with
  | none => rfl
  | some origin =>
      cases several : hasSeveralFiles origins with
      | false =>
          change readLabel? origin.lineLabel.toList = some origin
          rw [toList_lineLabel, readLabel?_line, ← file_eq_zero several member]
      | true =>
          change readLabel? origin.label.toList = some origin
          rw [toList_label, readLabel?_file]

theorem map_readLabel?_lineLabels (origins : List (Option Origin)) :
    (lineLabels origins).map readLabel? = origins := by
  rw [lineLabels, List.map_map]
  exact (List.map_congr_left fun origin member => readLabel?_annotationLabel member).trans
    (List.map_id _)

/-- A label is empty exactly if its line has no origin. -/
theorem lineLabels_empty_iff {index : Nat} {origin : Option Origin}
    (entry : origins[index]? = some origin) :
    (lineLabels origins)[index]? = some [] ↔ origin = none := by
  rw [getElem?_lineLabels entry]
  constructor
  · intro empty
    have member : origin ∈ origins := List.mem_of_getElem? entry
    rw [← readLabel?_annotationLabel member, Option.some.inj empty]
    rfl
  · rintro rfl
    rfl

end Labels

theorem noFeed_label (several : Bool) (origin : Option Origin) :
    '\n' ∉ (annotationLabel several origin).toList := by
  have noFeed : ∀ number : UInt32, '\n' ∉ numeral number := by
    intro number member
    cases isDigit_of_mem_numeral member
  cases origin with
  | none => exact List.not_mem_nil
  | some origin =>
      cases several with
      | false =>
          change '\n' ∉ origin.lineLabel.toList
          rw [toList_lineLabel]
          exact noFeed origin.line
      | true =>
          change '\n' ∉ origin.label.toList
          rw [toList_label]
          simp [noFeed]

/-! ## Rows -/

theorem length_le_foldl (labels : List String) (start : Nat) :
    start ≤ labels.foldl (fun width label => max width label.length) start ∧
      ∀ label ∈ labels,
        label.length ≤ labels.foldl (fun width label => max width label.length) start := by
  induction labels generalizing start with
  | nil => exact ⟨Nat.le_refl start, fun label member => nomatch member⟩
  | cons first rest ih =>
      obtain ⟨above, each⟩ := ih (max start first.length)
      refine ⟨Nat.le_trans (Nat.le_max_left _ _) above, fun label member => ?_⟩
      rcases List.mem_cons.mp member with rfl | later
      · exact Nat.le_trans (Nat.le_max_right _ _) above
      · exact each label later

/-- The width of the column of lines with these origins. -/
def columnWidth (origins : List (Option Origin)) : Nat :=
  labelWidth (origins.map (annotationLabel (hasSeveralFiles origins)))

theorem length_le_columnWidth {origins : List (Option Origin)} {label : List Char}
    (member : label ∈ lineLabels origins) : label.length ≤ columnWidth origins := by
  obtain ⟨origin, present, rfl⟩ := List.mem_map.mp member
  rw [String.length_toList]
  exact (length_le_foldl _ 0).2 _ (List.mem_map_of_mem present)

/-- A label at the right end of its column, and behind it a line. -/
def row (width : Nat) (label line : List Char) : List Char :=
  List.replicate (width - label.length) ' ' ++ label ++ " | ".toList ++ line

theorem annotatedLines_eq (origins : List (Option Origin)) (source : List Char) :
    annotatedLines origins source =
      List.zipWith (row (columnWidth origins)) (lineLabels origins) (lines source) := by
  have aligned : ∀ (label : String) (line : List Char),
      (alignRight (columnWidth origins) label).toList ++ " | ".toList ++ line =
        row (columnWidth origins) label.toList line := by
    intro label line
    rw [alignRight, row, String.toList_append, String.toList_ofList, String.length_toList]
  rw [annotatedLines, lineLabels, List.map_zip_eq_zipWith, List.zipWith_map_left,
    List.zipWith_map_left]
  exact congrArg (fun step => List.zipWith step origins (lines source))
    (funext fun origin => funext fun line => aligned _ line)

theorem noFeed_row {label line : List Char} (width : Nat) (labelled : '\n' ∉ label)
    (single : '\n' ∉ line) : '\n' ∉ row width label line := by
  have aligned : '\n' ∉ List.replicate (width - label.length) ' ' := by
    intro member
    cases List.eq_of_mem_replicate member
  simp [row, aligned, labelled, single]

theorem noFeed_annotatedLines (origins : List (Option Origin)) (source : List Char) :
    ∀ text ∈ annotatedLines origins source, '\n' ∉ text := by
  rw [annotatedLines_eq]
  intro text member
  obtain ⟨index, bound, rfl⟩ := List.mem_iff_getElem.mp member
  rw [List.length_zipWith] at bound
  obtain ⟨inLabels, inLines⟩ := Nat.lt_min.mp bound
  obtain ⟨origin, _, shown⟩ := List.mem_map.mp (List.getElem_mem inLabels)
  rw [List.getElem_zipWith]
  apply noFeed_row
  · rw [← shown]
    exact noFeed_label _ origin
  · exact noFeed_of_mem_lines (List.getElem_mem inLines)

/-- The annotated text is cut into its rows again. -/
theorem terminatedLines_annotated (origins : List (Option Origin)) (source : List Char) :
    terminatedLines (unlines (annotatedLines origins source)) =
      List.zipWith (fun label line => row (columnWidth origins) label line ++ ['\n'])
        (lineLabels origins) (lines source) := by
  rw [terminatedLines_unlines (noFeed_annotatedLines origins source), annotatedLines_eq,
    List.map_zipWith]

/-! ## Annotated sources -/

/--
What an annotated source consists of: rows of one width that hold the source lines as they
were, and labels that are read back as the origins of these lines.  Labels name files only if
some line comes from another file than the first.
-/
structure Annotation (source text : List Char) (origins : List (Option Origin)) (width : Nat)
    (labels : List (List Char)) : Prop where
  rows : terminatedLines text =
    List.zipWith (fun label line => row width label line ++ ['\n']) labels (lines source)
  each : labels.length = (lines source).length
  fits : ∀ label ∈ labels, label.length ≤ width
  readBack : labels.map readLabel? = origins
  empty : ∀ (index : Nat) (line : List Char), (lines source)[index]? = some line →
    (labels[index]? = some [] ↔ (Directive.ofLine? line).isSome = true)
  lineAlone : (∀ origin, some origin ∈ origins → origin.file = 0) →
    ∀ (index : Nat) (origin : Origin), origins[index]? = some (some origin) →
      labels[index]? = some (numeral origin.line)
  fileAndLine : (∃ origin, some origin ∈ origins ∧ origin.file ≠ 0) →
    ∀ (index : Nat) (origin : Origin), origins[index]? = some (some origin) →
      labels[index]? = some (numeral origin.file ++ ':' :: numeral origin.line)
  distinct : ∀ first second : Nat, labels[first]? = labels[second]? →
    origins[first]? = origins[second]?

theorem annotation_annotatedLines {source : List Char} {origins : List (Option Origin)}
    (counted : Counted origins source) :
    Annotation source (unlines (annotatedLines origins source)) origins (columnWidth origins)
      (lineLabels origins) := by
  constructor
  case rows => exact terminatedLines_annotated origins source
  case each => rw [lineLabels, List.length_map, counted.entries]
  case fits => exact fun label member => length_le_columnWidth member
  case readBack => exact map_readLabel?_lineLabels origins
  case empty =>
    intro index line found
    cases given : Directive.ofLine? line with
    | none =>
        obtain ⟨origin, entry, _⟩ := counted.ordinary index line found given
        rw [lineLabels_empty_iff entry]
        exact iff_of_false (Option.some_ne_none origin) Bool.false_ne_true
    | some directive =>
        have entry := counted.directive index line found (by rw [given]; rfl)
        rw [lineLabels_empty_iff entry]
        exact iff_of_true rfl rfl
  case lineAlone =>
    intro single index origin entry
    have several : hasSeveralFiles origins = false := by
      rw [Bool.eq_false_iff, Ne, hasSeveralFiles_iff]
      rintro ⟨other, member, differs⟩
      exact differs (single other member)
    rw [getElem?_lineLabels entry, several]
    exact congrArg some (toList_lineLabel origin)
  case fileAndLine =>
    intro other index origin entry
    rw [getElem?_lineLabels entry, (hasSeveralFiles_iff _).mpr other]
    exact congrArg some (toList_label origin)
  case distinct =>
    intro first second same
    rw [← map_readLabel?_lineLabels origins, List.getElem?_map, List.getElem?_map, same]

/--
Annotation loses nothing: an annotated source holds every line of the source unchanged, behind
a label that tells its origin, or behind an empty label if the line is a directive.  A source
is annotated exactly if its lines are counted, that is if every line but the directives has a
place below the last number of 32 bits.
-/
theorem annotation_annotate (source : String) :
    (∀ annotated, annotate source = some annotated →
      ∃ origins width labels, Origin.ofSource source.toList = some origins ∧
        Annotation source.toList annotated.toList origins width labels) ∧
    ((annotate source).isSome = true ↔
      ∀ (index : Nat) (line : List Char), (lines source.toList)[index]? = some line →
        Directive.ofLine? line = none →
          (placeBelow ((lines source.toList).take index)).number + 1 < 4294967296) := by
  constructor
  · intro annotated made
    obtain ⟨origins, counted, rfl⟩ := Option.map_eq_some_iff.mp made
    refine ⟨origins, columnWidth origins, lineLabels origins, counted, ?_⟩
    rw [String.toList_ofList]
    exact annotation_annotatedLines (counted_ofSource counted)
  · rw [annotate, Option.isSome_map]
    exact isSome_ofSource_iff source.toList

/-- A directive and two lines with labels of different lengths. -/
theorem annotation_nine :
    annotate "#line 9\na\nb" = some "   | #line 9\n 9 | a\n10 | b\n" ∧
      ∃ origins width labels, Origin.ofSource "#line 9\na\nb".toList = some origins ∧
        Annotation "#line 9\na\nb".toList "   | #line 9\n 9 | a\n10 | b\n".toList origins
          width labels := by
  have made : annotate "#line 9\na\nb" = some "   | #line 9\n 9 | a\n10 | b\n" := by
    decide +kernel
  exact ⟨made, (annotation_annotate _).1 _ made⟩

/-- With its origins the text with the last number has its rows, but it is not annotated. -/
theorem unannotated_limitSource :
    annotatedLines [none, some ⟨0, 4294967295⟩] limitSource =
        ["           | #line 4294967295".toList, "4294967295 | a".toList] ∧
      annotate (String.ofList limitSource) = none := by
  decide +kernel

end LiveShader.Source
