import LiveShader.Calendar.Basic
import Mathlib.Tactic.IntervalCases

/-!
# The order of timestamps

Days are numbered one after the other: every month begins on the day behind the last day of
the month before it, and so does every year.  So dates have the order of their days.  Within
a day timestamps have the order of their seconds, and a leap second, which is a second with a
whole second of nanoseconds or more, comes behind the rest of its second.
-/

namespace LiveShader.Calendar

/-! ## Numbers of days -/

/-- The number of a day without eras. -/
theorem dayNumber_eq (year : Int) (month day : Nat) :
    dayNumber year month day =
      (let shifted := if month ≤ 2 then year - 1 else year
       shifted * 365 + shifted / 4 - shifted / 100 + shifted / 400) +
        (153 * (((month + 9) % 12 : Nat) : Int) + 2) / 5 + day - 1 := by
  simp only [dayNumber, Int.fdiv_eq_ediv_of_nonneg _ (by decide : (0 : Int) ≤ 400)]
  split <;> omega

theorem dayNumber_day (year : Int) (month day : Nat) :
    dayNumber year month day = dayNumber year month 1 + day - 1 := by
  rw [dayNumber_eq, dayNumber_eq year month 1]
  omega

/-- March begins behind the last day of February, which depends on the year. -/
theorem dayNumber_march (year : Int) :
    dayNumber year 3 1 = dayNumber year 2 1 + daysInMonth year 2 := by
  rw [dayNumber_eq, dayNumber_eq]
  cases leap : isLeapYear year with
  | false =>
      simp only [isLeapYear, Bool.or_eq_false_iff, Bool.and_eq_false_iff, beq_eq_false_iff_ne,
        bne_eq_false_iff_eq] at leap
      simp [daysInMonth, isLeapYear]
      omega
  | true =>
      simp only [isLeapYear, Bool.or_eq_true, Bool.and_eq_true, beq_iff_eq, bne_iff_ne] at leap
      simp [daysInMonth, isLeapYear]
      omega

/-- Every month begins behind the last day of the month before it. -/
theorem dayNumber_nextMonth (year : Int) {month : Nat} (first : 1 ≤ month) (last : month < 12) :
    dayNumber year (month + 1) 1 = dayNumber year month 1 + daysInMonth year month := by
  by_cases february : month = 2
  · subst february
    exact dayNumber_march year
  · rw [dayNumber_eq, dayNumber_eq, daysInMonth, if_neg february]
    interval_cases month <;> simp <;> omega

/-- Every year begins behind the last day of December. -/
theorem dayNumber_nextYear (year : Int) :
    dayNumber (year + 1) 1 1 = dayNumber year 12 1 + daysInMonth year 12 := by
  rw [dayNumber_eq, dayNumber_eq]
  simp [daysInMonth]
  omega

/-- A month ends before any later month of its year begins. -/
theorem dayNumber_laterMonth (year : Int) {month later : Nat} (first : 1 ≤ month)
    (less : month < later) (last : later ≤ 12) :
    dayNumber year month 1 + daysInMonth year month ≤ dayNumber year later 1 := by
  induction later with
  | zero => cases less
  | succ later ih =>
      rcases Nat.lt_succ_iff_lt_or_eq.mp less with between | rfl
      · have next := dayNumber_nextMonth year (Nat.le_trans first (Nat.le_of_lt between)) last
        have before := ih between (Nat.le_of_lt last)
        omega
      · exact Int.le_of_eq (dayNumber_nextMonth year first last).symm

/-- A month ends before the next year begins. -/
theorem dayNumber_endOfYear (year : Int) {month : Nat} (first : 1 ≤ month) (last : month ≤ 12) :
    dayNumber year month 1 + daysInMonth year month ≤ dayNumber (year + 1) 1 1 := by
  rw [dayNumber_nextYear]
  rcases Nat.lt_or_eq_of_le last with before | rfl
  · have december := dayNumber_laterMonth year first before (Nat.le_refl 12)
    omega
  · exact Int.le_refl _

/-- A year begins no later than any year behind it. -/
theorem dayNumber_years (year : Int) (count : Nat) :
    dayNumber year 1 1 ≤ dayNumber (year + count) 1 1 := by
  induction count with
  | zero => simp
  | succ count ih =>
      have next := dayNumber_endOfYear (year + count) (Nat.le_refl 1) (by decide : 1 ≤ 12)
      have same : year + (count + 1 : Nat) = year + count + 1 := by omega
      rw [same]
      omega

/-! ## Dates -/

namespace Timestamp

/-- The number of the day of a timestamp. -/
def onDay (stamp : Timestamp) : Int := dayNumber stamp.year stamp.month stamp.day

/-- The number of seconds of the day before a timestamp, a leap second aside. -/
def secondOfDay (stamp : Timestamp) : Nat :=
  (stamp.hour * 60 + stamp.minute) * 60 + stamp.second

/-- Whether the date of a timestamp comes before that of another by year, month and day. -/
def EarlierDate (stamp other : Timestamp) : Prop :=
  stamp.year < other.year ∨ stamp.year = other.year ∧
    (stamp.month < other.month ∨ stamp.month = other.month ∧ stamp.day < other.day)

/--
Whether a timestamp comes before another: by days, then by seconds, then by nanoseconds, of
which a leap second has a whole second and more.
-/
def Before (stamp other : Timestamp) : Prop :=
  stamp.onDay < other.onDay ∨ stamp.onDay = other.onDay ∧
    (stamp.secondOfDay < other.secondOfDay ∨ stamp.secondOfDay = other.secondOfDay ∧
      stamp.nano < other.nano)

/-- Two timestamps fall in the same millisecond. -/
structure SameMillisecond (stamp other : Timestamp) : Prop where
  day : stamp.onDay = other.onDay
  second : stamp.secondOfDay = other.secondOfDay
  millisecond : stamp.nano / 1000000 = other.nano / 1000000

variable {stamp other : Timestamp}

/-- A date of the calendar. -/
structure OnCalendar (stamp : Timestamp) : Prop where
  firstMonth : 1 ≤ stamp.month
  lastMonth : stamp.month ≤ 12
  firstDay : 1 ≤ stamp.day
  lastDay : stamp.day ≤ daysInMonth stamp.year stamp.month

/-- A time of day; behind every second there can be a leap second. -/
structure InDay (stamp : Timestamp) : Prop where
  hour : stamp.hour < 24
  minute : stamp.minute < 60
  second : stamp.second < 60
  nano : stamp.nano < 2000000000

theorem onCalendar_of_isValid (valid : stamp.isValid = true) : stamp.OnCalendar := by
  simp only [isValid, hasValidDate, Bool.and_eq_true, decide_eq_true_eq] at valid
  obtain ⟨⟨⟨⟨⟨_, firstMonth⟩, lastMonth⟩, firstDay⟩, lastDay⟩, _⟩ := valid
  exact ⟨firstMonth, lastMonth, firstDay, lastDay⟩

theorem inDay_of_isValid (valid : stamp.isValid = true) : stamp.InDay := by
  simp only [isValid, hasValidTime, Bool.and_eq_true, decide_eq_true_eq] at valid
  obtain ⟨_, ⟨⟨hour, minute⟩, second⟩, nano⟩ := valid
  exact ⟨hour, minute, second, nano⟩

/-- The days of a month lie between its beginning and its end. -/
theorem OnCalendar.between (valid : stamp.OnCalendar) :
    dayNumber stamp.year stamp.month 1 ≤ stamp.onDay ∧
      stamp.onDay < dayNumber stamp.year stamp.month 1 + daysInMonth stamp.year stamp.month := by
  have day := dayNumber_day stamp.year stamp.month stamp.day
  have first := valid.firstDay
  have last := valid.lastDay
  rw [onDay]
  omega

theorem OnCalendar.onDay_lt (valid₁ : stamp.OnCalendar) (valid₂ : other.OnCalendar)
    (earlier : stamp.EarlierDate other) : stamp.onDay < other.onDay := by
  have ends := valid₁.between.2
  have begins := valid₂.between.1
  rcases earlier with years | ⟨sameYear, months | ⟨sameMonth, days⟩⟩
  · have year := dayNumber_endOfYear stamp.year valid₁.firstMonth valid₁.lastMonth
    obtain ⟨count, gap⟩ := Int.le.dest years
    have later := dayNumber_years (stamp.year + 1) count
    rw [gap] at later
    have january : dayNumber other.year 1 1 ≤ dayNumber other.year other.month 1 := by
      rcases Nat.lt_or_eq_of_le valid₂.firstMonth with behind | same
      · have month := dayNumber_laterMonth other.year (Nat.le_refl 1) behind valid₂.lastMonth
        omega
      · rw [← same]
    omega
  · have month := dayNumber_laterMonth stamp.year valid₁.firstMonth months valid₂.lastMonth
    rw [sameYear] at month ends
    omega
  · rw [onDay, onDay, dayNumber_day, dayNumber_day other.year, sameYear, sameMonth]
    omega

theorem earlierDate_trichotomy (stamp other : Timestamp) :
    stamp.EarlierDate other ∨ other.EarlierDate stamp ∨
      stamp.year = other.year ∧ stamp.month = other.month ∧ stamp.day = other.day := by
  rw [EarlierDate, EarlierDate]
  omega

/-- Dates have the order of their days. -/
theorem OnCalendar.onDay_lt_iff (valid₁ : stamp.OnCalendar) (valid₂ : other.OnCalendar) :
    stamp.onDay < other.onDay ↔ stamp.EarlierDate other := by
  refine ⟨fun less => ?_, valid₁.onDay_lt valid₂⟩
  rcases earlierDate_trichotomy stamp other with earlier | later | ⟨year, month, day⟩
  · exact earlier
  · have greater := valid₂.onDay_lt valid₁ later
    omega
  · rw [onDay, onDay, year, month, day] at less
    exact absurd less (Int.lt_irrefl _)

/-- A day has one date. -/
theorem OnCalendar.onDay_eq_iff (valid₁ : stamp.OnCalendar) (valid₂ : other.OnCalendar) :
    stamp.onDay = other.onDay ↔
      stamp.year = other.year ∧ stamp.month = other.month ∧ stamp.day = other.day := by
  constructor
  · intro same
    rcases earlierDate_trichotomy stamp other with earlier | later | equal
    · have less := valid₁.onDay_lt valid₂ earlier
      omega
    · have greater := valid₂.onDay_lt valid₁ later
      omega
    · exact equal
  · rintro ⟨year, month, day⟩
    rw [onDay, onDay, year, month, day]

/-! ## Times of day -/

theorem milliseconds_lt (leaps : stamp.leapsAtMinuteEnd = true) (early : stamp.second < 59) :
    stamp.nano / 1000000 < 1000 := by
  simp only [leapsAtMinuteEnd, Bool.or_eq_true, decide_eq_true_eq, beq_iff_eq] at leaps
  omega

/-- Seconds of a day have the order of their hours, minutes and seconds. -/
theorem InDay.secondOfDay_lt_iff (time : stamp.InDay) (time' : other.InDay) :
    stamp.secondOfDay < other.secondOfDay ↔
      stamp.hour < other.hour ∨ stamp.hour = other.hour ∧
        (stamp.minute < other.minute ∨ stamp.minute = other.minute ∧
          stamp.second < other.second) := by
  have minute := time.minute
  have minute' := time'.minute
  have second := time.second
  have second' := time'.second
  rw [secondOfDay, secondOfDay]
  omega

theorem InDay.secondOfDay_eq_iff (time : stamp.InDay) (time' : other.InDay) :
    stamp.secondOfDay = other.secondOfDay ↔
      stamp.hour = other.hour ∧ stamp.minute = other.minute ∧ stamp.second = other.second := by
  have minute := time.minute
  have minute' := time'.minute
  have second := time.second
  have second' := time'.second
  rw [secondOfDay, secondOfDay]
  omega

end Timestamp

end LiveShader.Calendar
