import LiveShader.Proofs.Source.LineMap
import LiveShader.Proofs.Source.Origin

/-!
# Counting lines

The origins of a source are counted by a running pair of 32-bit numbers, which every
directive sets and every other line advances.  What they should be is said by whole numbers:
the nearest directive above a line gives the number from which the lines below it are counted,
and the last directive that names a file gives the file.  The counter is at these whole numbers
as long as it goes on, and it goes on below every line whose number has another one of 32 bits
behind it.
-/

namespace LiveShader.Source

open LiveShader.Text

/-! ## Directives as whole numbers -/

/-- The numbers of a directive: that of the line below it and, if it names one, its file. -/
structure Directive where
  number : Nat
  file? : Option Nat
  deriving Repr, DecidableEq

namespace Directive

/-- The directive that a line is, if it is one; its numbers fit into 32 bits. -/
def ofLine? (line : List Char) : Option Directive :=
  match Origin.directiveWords? line with
  | some [first] => (Number.readUInt32? first).map fun number => ⟨number, none⟩
  | some (first :: second :: _) =>
      match Number.readUInt32? first, Number.readUInt32? second with
      | some number, some file => some ⟨number, some file⟩
      | _, _ => none
  | _ => none

/-- The origin of the line below a directive, given the file that was in force. -/
def origin (directive : Directive) (file : UInt32) : Origin :=
  ⟨(directive.file?.map Nat.toUInt32).getD file, directive.number.toUInt32⟩

/-- The directives of a source are the lines that set its counter. -/
theorem directive?_eq (line : List Char) (file : UInt32) :
    Origin.directive? line file = (ofLine? line).map fun directive => directive.origin file := by
  rw [Origin.directive?, ofLine?]
  rcases Origin.directiveWords? line with _ | _ | ⟨first, _ | ⟨second, rest⟩⟩
  · rfl
  · rfl
  · dsimp only [Origin.number?]
    cases Number.readUInt32? first <;> rfl
  · dsimp only [Origin.number?]
    cases Number.readUInt32? first <;> cases Number.readUInt32? second <;> rfl

/-- The numbers of a directive are those of the origin that it sets. -/
theorem toNat_origin {line : List Char} {directive : Directive}
    (given : ofLine? line = some directive) (file : UInt32) :
    (directive.origin file).line.toNat = directive.number ∧
      (directive.origin file).file.toNat = directive.file?.getD file.toNat := by
  rw [ofLine?] at given
  split at given
  · obtain ⟨number, read, rfl⟩ := Option.map_eq_some_iff.mp given
    exact ⟨Nat.mod_eq_of_lt (Number.lt_of_readUInt32? read), rfl⟩
  · split at given
    · rename_i number other first second
      cases given
      exact ⟨Nat.mod_eq_of_lt (Number.lt_of_readUInt32? first),
        Nat.mod_eq_of_lt (Number.lt_of_readUInt32? second)⟩
    · cases given
  · cases given

end Directive

/-! ## Places as whole numbers -/

/-- A file and a line of it, as whole numbers. -/
structure Place where
  file : Nat
  number : Nat
  deriving Repr, DecidableEq

/-- The place that an origin stands for. -/
def Origin.place (origin : Origin) : Place := ⟨origin.file.toNat, origin.line.toNat⟩

/-- The directives among some lines, in their order. -/
def directives (above : List (List Char)) : List Directive := above.filterMap Directive.ofLine?

/-- The file in force below some lines: the last one that a directive names, at first file 0. -/
def fileBelow (above : List (List Char)) : Nat :=
  ((directives above).filterMap Directive.file?).getLast?.getD 0

/-- The number that the nearest directive gives; without one, lines are counted from 1. -/
def countedFrom (above : List (List Char)) : Nat :=
  ((directives above).getLast?.map Directive.number).getD 1

/-- The number of lines since the nearest directive. -/
def linesSince (above : List (List Char)) : Nat :=
  (above.reverse.takeWhile fun line => (Directive.ofLine? line).isNone).length

/-- The place of a line with these lines above it. -/
def placeBelow (above : List (List Char)) : Place :=
  ⟨fileBelow above, countedFrom above + linesSince above⟩

section Concat

variable {above : List (List Char)} {line : List Char}

/-- Below a line that is no directive the count goes on. -/
theorem placeBelow_ordinary (ordinary : Directive.ofLine? line = none) :
    placeBelow (above ++ [line]) = ⟨fileBelow above, (placeBelow above).number + 1⟩ := by
  have same : directives (above ++ [line]) = directives above := by
    simp [directives, List.filterMap_append, ordinary]
  have longer : linesSince (above ++ [line]) = linesSince above + 1 := by
    simp [linesSince, ordinary]
  rw [placeBelow, fileBelow, countedFrom, same, longer]
  rfl

/-- Below a directive the count begins with its number, in the file that it names. -/
theorem placeBelow_directive {directive : Directive}
    (given : Directive.ofLine? line = some directive) :
    placeBelow (above ++ [line]) =
      ⟨directive.file?.getD (fileBelow above), directive.number⟩ := by
  have more : directives (above ++ [line]) = directives above ++ [directive] := by
    simp [directives, List.filterMap_append, given]
  have none' : linesSince (above ++ [line]) = 0 := by
    simp [linesSince, given]
  rw [placeBelow, fileBelow, countedFrom, more, none', List.filterMap_append]
  cases named : directive.file? with
  | none => simp [fileBelow, named]
  | some file => simp [named]

end Concat

/-! ## The running counter -/

/--
What the entry of a line at some place is.  A directive has no origin; any other line has its
place, with another number behind it.
-/
def IsEntry (line : List Char) (place : Place) : Option Origin → Prop
  | none => (Directive.ofLine? line).isSome = true
  | some origin =>
      Directive.ofLine? line = none ∧ origin.place = place ∧ place.number + 1 < 4294967296

theorem IsEntry.of_ordinary {line : List Char} {place : Place} {entry : Option Origin}
    (isEntry : IsEntry line place entry) (ordinary : Directive.ofLine? line = none) :
    ∃ origin, entry = some origin ∧ origin.place = place ∧ place.number + 1 < 4294967296 := by
  cases entry with
  | none =>
      rw [IsEntry, ordinary] at isEntry
      cases isEntry
  | some origin => exact ⟨origin, rfl, isEntry.2⟩

namespace Origin

variable {current : Origin} {above : List (List Char)} {line : List Char}

theorem place_start : start.place = placeBelow [] := rfl

/-- A directive sets the counter to the place below it. -/
theorem place_directive (stands : current.place = placeBelow above) {directive : Directive}
    (given : Directive.ofLine? line = some directive) :
    (directive.origin current.file).place = placeBelow (above ++ [line]) := by
  obtain ⟨number, file⟩ := Directive.toNat_origin given current.file
  have inForce : current.file.toNat = fileBelow above := congrArg Place.file stands
  rw [placeBelow_directive given, place, number, file, inForce]

/-- Below any other line the counter is at the next number, if there is one. -/
theorem place_next {next : Origin} (stands : current.place = placeBelow above)
    (ordinary : Directive.ofLine? line = none) (goesOn : current.next? = some next) :
    (placeBelow above).number + 1 < 4294967296 ∧ next.place = placeBelow (above ++ [line]) := by
  obtain ⟨room, rfl⟩ := next?_eq_some_iff.mp goesOn
  have number : current.line.toNat = (placeBelow above).number := congrArg Place.number stands
  have inForce : current.file.toNat = fileBelow above := congrArg Place.file stands
  have counted : (current.line + 1).toNat = current.line.toNat + 1 := by
    rw [UInt32.toNat_add]
    exact Nat.mod_eq_of_lt room
  constructor
  · rw [← number]
    exact room
  · rw [placeBelow_ordinary ordinary, place, counted, number, inForce]

/-- Behind the last number the counter does not go on. -/
theorem next?_eq_none (stands : current.place = placeBelow above)
    (last : current.next? = none) : 4294967296 ≤ (placeBelow above).number + 1 := by
  have number : current.line.toNat = (placeBelow above).number := congrArg Place.number stands
  rw [← number]
  apply Nat.le_of_not_lt
  intro room
  rw [next?_eq_some_iff.mpr ⟨room, rfl⟩] at last
  cases last

/--
One line, with the counter at its place.  Either the line has its entry and the counter is at
the next place, or the line is no directive, has the last number, and ends the count.
-/
theorem step (stands : current.place = placeBelow above) (line : List Char) :
    (∃ entry below, IsEntry line (placeBelow above) entry ∧
      below.place = placeBelow (above ++ [line]) ∧
      ∀ rest, ofLinesFrom current (line :: rest) = (ofLinesFrom below rest).map (entry :: ·)) ∨
    (Directive.ofLine? line = none ∧ 4294967296 ≤ (placeBelow above).number + 1 ∧
      ∀ rest, ofLinesFrom current (line :: rest) = none) := by
  cases given : Directive.ofLine? line with
  | some directive =>
      refine .inl ⟨none, directive.origin current.file, ?_, place_directive stands given, ?_⟩
      · rw [IsEntry, given]
        rfl
      · intro rest
        rw [ofLinesFrom, Directive.directive?_eq, given]
        rfl
  | none =>
      cases goesOn : current.next? with
      | some next =>
          obtain ⟨room, there⟩ := place_next stands given goesOn
          refine .inl ⟨some current, next, ⟨given, stands, room⟩, there, ?_⟩
          intro rest
          rw [ofLinesFrom, Directive.directive?_eq, given, goesOn]
          rfl
      | none =>
          refine .inr ⟨rfl, next?_eq_none stands goesOn, ?_⟩
          intro rest
          rw [ofLinesFrom, Directive.directive?_eq, given, goesOn]
          rfl

/-- Every line of a counted text has its entry. -/
theorem isEntry_ofLinesFrom {texts : List (List Char)} {origins : List (Option Origin)}
    (stands : current.place = placeBelow above) (counted : ofLinesFrom current texts = some origins)
    {index : Nat} (found : texts[index]? = some line) :
    ∃ entry, origins[index]? = some entry ∧
      IsEntry line (placeBelow (above ++ texts.take index)) entry := by
  induction texts generalizing current above origins index with
  | nil => cases found
  | cons first rest ih =>
      rcases step stands first with ⟨entry, below, isEntry, there, follows⟩ | ⟨_, _, ends⟩
      · rw [follows rest] at counted
        obtain ⟨later, countedRest, rfl⟩ := Option.map_eq_some_iff.mp counted
        cases index with
        | zero =>
            cases found
            rw [List.take_zero, List.append_nil]
            exact ⟨entry, rfl, isEntry⟩
        | succ index =>
            have entries := ih there countedRest found
            rw [List.append_assoc] at entries
            exact entries
      · rw [ends rest] at counted
        cases counted

/-- A text is counted if each of its lines but the directives has room for another number. -/
theorem isSome_ofLinesFrom {texts : List (List Char)} (stands : current.place = placeBelow above)
    (room : ∀ (index : Nat) (line : List Char), texts[index]? = some line →
      Directive.ofLine? line = none →
        (placeBelow (above ++ texts.take index)).number + 1 < 4294967296) :
    (ofLinesFrom current texts).isSome = true := by
  induction texts generalizing current above with
  | nil => rfl
  | cons first rest ih =>
      rcases step stands first with ⟨entry, below, _, there, follows⟩ | ⟨ordinary, last, _⟩
      · rw [follows rest, Option.isSome_map]
        apply ih there
        intro index line found ordinary
        rw [List.append_assoc]
        exact room (index + 1) line found ordinary
      · have fits := room 0 first rfl ordinary
        rw [List.take_zero, List.append_nil] at fits
        exact absurd fits (Nat.not_lt_of_le last)

end Origin

/-! ## Exact counting -/

/--
The origins of a source are exact: each line has an entry, a directive has no origin, and any
other line has one for the place below the lines above it.
-/
structure Counted (origins : List (Option Origin)) (source : List Char) : Prop where
  entries : origins.length = (lines source).length
  directive : ∀ (index : Nat) (line : List Char), (lines source)[index]? = some line →
    (Directive.ofLine? line).isSome = true → origins[index]? = some none
  ordinary : ∀ (index : Nat) (line : List Char), (lines source)[index]? = some line →
    Directive.ofLine? line = none →
      ∃ origin, origins[index]? = some (some origin) ∧
        origin.place = placeBelow ((lines source).take index)

/-- The entry of each line of a source. -/
theorem isEntry_ofSource {source : List Char} {origins : List (Option Origin)}
    (counted : Origin.ofSource source = some origins) {index : Nat} {line : List Char}
    (found : (lines source)[index]? = some line) :
    ∃ entry, origins[index]? = some entry ∧
      IsEntry line (placeBelow ((lines source).take index)) entry :=
  Origin.isEntry_ofLinesFrom Origin.place_start counted found

theorem counted_ofSource {source : List Char} {origins : List (Option Origin)}
    (counted : Origin.ofSource source = some origins) : Counted origins source := by
  refine ⟨length_ofSource counted, ?_, ?_⟩
  · intro index line found directive
    obtain ⟨entry, given, isEntry⟩ := isEntry_ofSource counted found
    cases entry with
    | none => exact given
    | some origin =>
        rw [isEntry.1] at directive
        cases directive
  · intro index line found ordinary
    obtain ⟨entry, given, isEntry⟩ := isEntry_ofSource counted found
    obtain ⟨origin, rfl, stands, _⟩ := isEntry.of_ordinary ordinary
    exact ⟨origin, given, stands⟩

/-- The sources that are counted: every line but the directives has room for another number. -/
theorem isSome_ofSource_iff (source : List Char) :
    (Origin.ofSource source).isSome = true ↔
      ∀ (index : Nat) (line : List Char), (lines source)[index]? = some line →
        Directive.ofLine? line = none →
          (placeBelow ((lines source).take index)).number + 1 < 4294967296 := by
  refine ⟨?_, Origin.isSome_ofLinesFrom Origin.place_start⟩
  intro isSome index line found ordinary
  obtain ⟨origins, counted⟩ := Option.isSome_iff_exists.mp isSome
  obtain ⟨entry, _, isEntry⟩ := isEntry_ofSource counted found
  obtain ⟨origin, _, _, room⟩ := isEntry.of_ordinary ordinary
  exact room

/--
Lines are counted from the nearest directive, in the file in force, exactly and without an end
of the numbers, for the sources that are counted at all.  These are the sources in which every
line but the directives has a place below the last number of 32 bits.
-/
theorem counted_iff (source : List Char) :
    (∀ origins, Origin.ofSource source = some origins → Counted origins source) ∧
    ((Origin.ofSource source).isSome = true ↔
      ∀ (index : Nat) (line : List Char), (lines source)[index]? = some line →
        Directive.ofLine? line = none →
          (placeBelow ((lines source).take index)).number + 1 < 4294967296) :=
  ⟨fun _ => counted_ofSource, isSome_ofSource_iff source⟩

theorem counted_mixedStage :
    Origin.ofSource mixedStage = some mixedOrigins ∧ Counted mixedOrigins mixedStage := by
  have counted : Origin.ofSource mixedStage = some mixedOrigins := by decide +kernel
  exact ⟨counted, (counted_iff mixedStage).1 mixedOrigins counted⟩

/-- A directive with the last number, and a line below it. -/
def limitSource : List Char := "#line 4294967295\na".toList

/-- The line has the place that the directive gives, and its source is not counted. -/
theorem uncounted_limitSource :
    (lines limitSource).map Directive.ofLine? = [some ⟨4294967295, none⟩, none] ∧
      placeBelow ((lines limitSource).take 1) = ⟨0, 4294967295⟩ ∧
      Origin.ofSource limitSource = none := by
  decide +kernel

end LiveShader.Source
