import LiveShader.Proofs.Calendar.Order
import LiveShader.Proofs.Number.Padded
import LiveShader.Window.CaptureName

/-!
# The order of captured images

The name of a captured image spells the time of its capture in fields of fixed widths, from the
year down to the millisecond.  So names have the order of their fields, and the fields have the
order of the timestamps up to the millisecond as long as leap seconds are at the end of a minute:
one behind second 59 is shown as second 60, which comes before the next minute.  One behind any
other second is shown as the second that follows it.
-/

namespace LiveShader.Window

open LiveShader.Calendar

/-! ## Names and their fields -/

/-- The fields that a name shows. -/
def shownFields (stamp : Timestamp) : List Nat :=
  [stamp.year.toNat, stamp.month, stamp.day, stamp.hour, stamp.minute, shownSecond stamp,
    millisecond stamp]

/-- A timestamp whose name has a year of four digits. -/
structure Nameable (stamp : Timestamp) : Prop where
  valid : stamp.isValid = true
  firstYear : 0 ≤ stamp.year
  lastYear : stamp.year ≤ 9999

theorem toList_captureName {stamp : Timestamp} (nameable : Nameable stamp) :
    (captureName stamp).toList =
      "shader-".toList ++ ((Number.padded 4 stamp.year.toNat).toList ++
        ((Number.padded 2 stamp.month).toList ++ ((Number.padded 2 stamp.day).toList ++
          ("-".toList ++ ((Number.padded 2 stamp.hour).toList ++
            ((Number.padded 2 stamp.minute).toList ++
              ((Number.padded 2 (shownSecond stamp)).toList ++
                ("-".toList ++
                  ((Number.padded 3 (millisecond stamp)).toList ++ ".png".toList))))))))) := by
  have year : yearText stamp.year = Number.padded 4 stamp.year.toNat :=
    if_pos ⟨nameable.firstYear, nameable.lastYear⟩
  -- The equation of the definition is slow to state, for its literals, so it is opened as it is.
  delta captureName
  rw [year]
  simp only [String.toList_append, List.append_assoc]

theorem append_lt_append_iff (lead : List Char) (rest₁ rest₂ : List Char) :
    lead ++ rest₁ < lead ++ rest₂ ↔ rest₁ < rest₂ := by
  induction lead with
  | nil => rfl
  | cons c lead ih =>
      rw [List.cons_append, List.cons_append, List.cons_lt_cons_self, ih]

/-- The fields of a timestamp fit into their widths. -/
structure Fitting (stamp : Timestamp) : Prop where
  year : stamp.year.toNat < 10000
  month : stamp.month < 100
  day : stamp.day < 100
  hour : stamp.hour < 100
  minute : stamp.minute < 100
  second : shownSecond stamp < 100
  millisecond : millisecond stamp < 1000

theorem daysInMonth_le (year : Int) (month : Nat) : daysInMonth year month ≤ 31 := by
  rw [daysInMonth]
  split
  · split <;> decide
  · split <;> decide

theorem Nameable.fitting {stamp : Timestamp} (nameable : Nameable stamp) : Fitting stamp := by
  have date := Timestamp.onCalendar_of_isValid nameable.valid
  have time := Timestamp.inDay_of_isValid nameable.valid
  have year := nameable.lastYear
  have day := Nat.le_trans date.lastDay (daysInMonth_le _ _)
  have month := date.lastMonth
  have hour := time.hour
  have minute := time.minute
  have second := time.second
  have nano := time.nano
  constructor
  case year => omega
  case month => omega
  case day => omega
  case hour => omega
  case minute => omega
  case second =>
    rw [shownSecond]
    omega
  case millisecond =>
    rw [millisecond]
    omega

/-- Names have the order of their fields. -/
theorem captureName_lt_iff {stamp other : Timestamp} (nameable₁ : Nameable stamp)
    (nameable₂ : Nameable other) :
    captureName stamp < captureName other ↔ shownFields stamp < shownFields other := by
  have fits₁ := nameable₁.fitting
  have fits₂ := nameable₂.fitting
  rw [String.lt_iff, toList_captureName nameable₁, toList_captureName nameable₂,
    append_lt_append_iff, Number.padded_append_lt_iff fits₁.year fits₂.year,
    Number.padded_append_lt_iff fits₁.month fits₂.month,
    Number.padded_append_lt_iff fits₁.day fits₂.day, append_lt_append_iff,
    Number.padded_append_lt_iff fits₁.hour fits₂.hour,
    Number.padded_append_lt_iff fits₁.minute fits₂.minute,
    Number.padded_append_lt_iff fits₁.second fits₂.second, append_lt_append_iff,
    Number.padded_append_lt_iff fits₁.millisecond fits₂.millisecond]
  generalize ".png".toList = ending
  simp only [shownFields, List.cons_lt_cons_iff, List.lt_irrefl]

theorem captureName_eq_iff {stamp other : Timestamp} (nameable₁ : Nameable stamp)
    (nameable₂ : Nameable other) :
    captureName stamp = captureName other ↔ shownFields stamp = shownFields other := by
  constructor
  · intro same
    apply List.le_antisymm
    · intro less
      have names := (captureName_lt_iff nameable₂ nameable₁).mpr less
      rw [same] at names
      exact String.lt_irrefl _ names
    · intro less
      have names := (captureName_lt_iff nameable₁ nameable₂).mpr less
      rw [same] at names
      exact String.lt_irrefl _ names
  · intro same
    apply String.le_antisymm
    · rw [← String.not_lt, captureName_lt_iff nameable₂ nameable₁, same]
      exact List.lt_irrefl _
    · rw [← String.not_lt, captureName_lt_iff nameable₁ nameable₂, same]
      exact List.lt_irrefl _

/-! ## Fields and timestamps -/

section Order

open Timestamp

variable {stamp other : Timestamp}

/-- The milliseconds of a minute are those of its seconds, the leap second among them. -/
theorem shownSecond_mul_add (stamp : Timestamp) :
    shownSecond stamp * 1000 + millisecond stamp = stamp.second * 1000 + stamp.nano / 1000000 := by
  rw [shownSecond, millisecond]
  omega

theorem millisecond_lt (stamp : Timestamp) : millisecond stamp < 1000 := by
  rw [millisecond]
  omega

/-- A later time of a minute is not shown before an earlier one. -/
theorem shown_le (leaps : stamp.leapsAtMinuteEnd = true) (time' : other.InDay)
    (before : stamp.second < other.second ∨
      stamp.second = other.second ∧ stamp.nano < other.nano) :
    shownSecond stamp < shownSecond other ∨
      shownSecond stamp = shownSecond other ∧ millisecond stamp ≤ millisecond other := by
  have shown := shownSecond_mul_add stamp
  have shown' := shownSecond_mul_add other
  have small := millisecond_lt stamp
  have small' := millisecond_lt other
  have part := milliseconds_lt leaps
  have second' := time'.second
  have grows : stamp.nano < other.nano → stamp.nano / 1000000 ≤ other.nano / 1000000 :=
    fun less => Nat.div_le_div_right (Nat.le_of_lt less)
  generalize stamp.nano / 1000000 = nanos at *
  generalize other.nano / 1000000 = nanos' at *
  omega

/-- The same time of a minute up to the millisecond is shown alike, and no other is. -/
theorem shown_eq_iff (time : stamp.InDay) (leaps : stamp.leapsAtMinuteEnd = true)
    (time' : other.InDay) (leaps' : other.leapsAtMinuteEnd = true) :
    shownSecond stamp = shownSecond other ∧ millisecond stamp = millisecond other ↔
      stamp.second = other.second ∧ stamp.nano / 1000000 = other.nano / 1000000 := by
  have shown := shownSecond_mul_add stamp
  have shown' := shownSecond_mul_add other
  have small := millisecond_lt stamp
  have small' := millisecond_lt other
  have part := milliseconds_lt leaps
  have part' := milliseconds_lt leaps'
  have second := time.second
  have second' := time'.second
  generalize stamp.nano / 1000000 = nanos at *
  generalize other.nano / 1000000 = nanos' at *
  omega

/-- The fields of a timestamp are no later than those of a timestamp behind it. -/
theorem not_shownFields_lt (nameable : Nameable stamp) (leaps : stamp.leapsAtMinuteEnd = true)
    (nameable' : Nameable other) (before : stamp.Before other) :
    ¬ shownFields other < shownFields stamp := by
  have date := onCalendar_of_isValid nameable.valid
  have date' := onCalendar_of_isValid nameable'.valid
  have time := inDay_of_isValid nameable.valid
  have time' := inDay_of_isValid nameable'.valid
  have year := nameable.firstYear
  have year' := nameable'.firstYear
  have shown := shown_le leaps time'
  rw [Before, date.onDay_lt_iff date', date.onDay_eq_iff date', EarlierDate,
    time.secondOfDay_lt_iff time', time.secondOfDay_eq_iff time'] at before
  simp only [shownFields, List.cons_lt_cons_iff, List.not_lt_nil, and_false, or_false]
  omega

/-- Timestamps have the same fields exactly if they fall in the same millisecond. -/
theorem shownFields_eq_iff (nameable : Nameable stamp) (leaps : stamp.leapsAtMinuteEnd = true)
    (nameable' : Nameable other) (leaps' : other.leapsAtMinuteEnd = true) :
    shownFields stamp = shownFields other ↔ stamp.SameMillisecond other := by
  have date := onCalendar_of_isValid nameable.valid
  have date' := onCalendar_of_isValid nameable'.valid
  have time := inDay_of_isValid nameable.valid
  have time' := inDay_of_isValid nameable'.valid
  have years : stamp.year.toNat = other.year.toNat ↔ stamp.year = other.year := by
    have year := nameable.firstYear
    have year' := nameable'.firstYear
    omega
  have sameDay := date.onDay_eq_iff date'
  have sameSecond := time.secondOfDay_eq_iff time'
  have sameShown := shown_eq_iff time leaps time' leaps'
  simp only [shownFields, List.cons.injEq, and_true]
  constructor
  · rintro ⟨year, month, day, hour, minute, shown⟩
    obtain ⟨second, part⟩ := sameShown.mp shown
    exact ⟨sameDay.mpr ⟨years.mp year, month, day⟩, sameSecond.mpr ⟨hour, minute, second⟩, part⟩
  · rintro ⟨sharedDay, sharedSecond, part⟩
    obtain ⟨year, month, day⟩ := sameDay.mp sharedDay
    obtain ⟨hour, minute, second⟩ := sameSecond.mp sharedSecond
    exact ⟨years.mpr year, month, day, hour, minute, sameShown.mpr ⟨second, part⟩⟩

end Order

/--
Names of captured images sort like their times.  For any two timestamps of the calendar with
years of four digits, leap seconds among them, the name of the earlier one does not come behind
the name of the later one, if the earlier one has no leap second but behind second 59.  If
neither has, the names are the same exactly if both fall in one millisecond.
-/
theorem captureName_sorted {stamp other : Timestamp}
    (valid₁ : stamp.isValid = true) (years₁ : 0 ≤ stamp.year ∧ stamp.year ≤ 9999)
    (leaps₁ : stamp.leapsAtMinuteEnd = true)
    (valid₂ : other.isValid = true) (years₂ : 0 ≤ other.year ∧ other.year ≤ 9999) :
    (stamp.Before other → captureName stamp ≤ captureName other) ∧
      (other.leapsAtMinuteEnd = true →
        (captureName stamp = captureName other ↔ stamp.SameMillisecond other)) := by
  have nameable₁ : Nameable stamp := ⟨valid₁, years₁.1, years₁.2⟩
  have nameable₂ : Nameable other := ⟨valid₂, years₂.1, years₂.2⟩
  constructor
  · intro before
    rw [← String.not_lt, captureName_lt_iff nameable₂ nameable₁]
    exact not_shownFields_lt nameable₁ leaps₁ nameable₂ before
  · intro leaps₂
    rw [captureName_eq_iff nameable₁ nameable₂,
      shownFields_eq_iff nameable₁ leaps₁ nameable₂ leaps₂]

/-- A leap second at the end of a year, and the first instant of the next year. -/
theorem captureName_sorted_leapSecond :
    let leap : Timestamp := ⟨2016, 12, 31, 23, 59, 59, 1999999999⟩
    let next : Timestamp := ⟨2017, 1, 1, 0, 0, 0, 0⟩
    leap.isMakeable = true ∧ next.isMakeable = true ∧ leap.Before next ∧
      captureName leap ≤ captureName next ∧ captureName leap ≠ captureName next := by
  intro leap next
  have valid₁ : leap.isValid = true := by decide
  have valid₂ : next.isValid = true := by decide
  have before : leap.Before next := Or.inl (by decide)
  obtain ⟨sorted, same⟩ :=
    captureName_sorted valid₁ (by decide) (by decide) valid₂ (by decide)
  refine ⟨by decide, by decide, before, sorted before, fun equal => ?_⟩
  exact absurd ((same (by decide)).mp equal).day (by decide)

/--
A leap second behind the second four is shown as a part of the second five: its name comes
behind that of the beginning of second five, and is that of a later time of second five.
-/
theorem captureName_unsorted_strayLeap :
    let stray : Timestamp := ⟨2015, 6, 30, 23, 56, 4, 1333333333⟩
    let next : Timestamp := ⟨2015, 6, 30, 23, 56, 5, 0⟩
    let later : Timestamp := ⟨2015, 6, 30, 23, 56, 5, 333333333⟩
    stray.isValid = true ∧ next.isValid = true ∧ later.isValid = true ∧
      stray.Before next ∧ ¬ captureName stray ≤ captureName next ∧
        captureName stray = captureName later ∧ ¬ stray.SameMillisecond later := by
  intro stray next later
  have nameable : Nameable stray := ⟨by decide, by decide, by decide⟩
  have nameable₁ : Nameable next := ⟨by decide, by decide, by decide⟩
  have nameable₂ : Nameable later := ⟨by decide, by decide, by decide⟩
  have before : stray.Before next := Or.inr ⟨rfl, Or.inl (by decide)⟩
  have behind : ¬ captureName stray ≤ captureName next := by
    rw [String.not_le, captureName_lt_iff nameable₁ nameable]
    decide
  have same : captureName stray = captureName later :=
    (captureName_eq_iff nameable nameable₂).mpr (by decide)
  refine ⟨by decide, by decide, by decide, before, behind, same, fun together => ?_⟩
  exact absurd together.second (by decide)

end LiveShader.Window
