import PagedReports.Proofs.Calendar.Days
import PagedReports.Proofs.Text.Columns

/-!
# Civil times

A date of the calendar and a time of day, in the years from 1970 to 9999. A civil time is so many
seconds after the start of 1970 as make up the days before its date and the part of its day that
has passed, and later civil times have more of them (`CivilTime.seconds_lt_iff`).

Written with its largest unit first and in columns, as in 2000-02-29 23:59:59, a civil time reads
back (`CivilTime.read?_text`), and the texts stand in the order of time
(`CivilTime.text_lt_iff`).
-/

namespace PagedReports.Calendar

open Text (Column)

/-- A date and a time of day in the years from 1970 to 9999. -/
structure CivilTime where
  /-- The date. -/
  date : Date
  /-- The hour of the day, from zero. -/
  hour : Nat
  /-- The minute of the hour, from zero. -/
  minute : Nat
  /-- The second of the minute, from zero. -/
  second : Nat
  /-- The date is in the calendar. -/
  isDate : date.IsDate
  /-- The year has four digits, and is not before 1970. -/
  year_bounds : 1970 ≤ date.year ∧ date.year ≤ 9999
  /-- The day has 24 hours. -/
  hour_lt : hour < 24
  /-- The hour has 60 minutes. -/
  minute_lt : minute < 60
  /-- The minute has 60 seconds. -/
  second_lt : second < 60

namespace CivilTime

/-- The seconds of the day that have passed. -/
def timeOfDay (t : CivilTime) : Nat := t.hour * 3600 + t.minute * 60 + t.second

/-- The seconds since the start of 1970. -/
def seconds (t : CivilTime) : Nat := t.date.daysSince1970 * 86400 + t.timeOfDay

theorem timeOfDay_lt (t : CivilTime) : t.timeOfDay < 86400 := by
  have hhour := t.hour_lt
  have hminute := t.minute_lt
  have hsecond := t.second_lt
  unfold timeOfDay
  omega

/-! ### Order -/

/-- The numbers of a civil time, the largest unit first. -/
def numbers (t : CivilTime) : List Nat :=
  [t.date.year, t.date.month, t.date.day, t.hour, t.minute, t.second]

theorem numbers_injective : Function.Injective numbers := by
  rintro ⟨⟨_, _, _⟩, _, _, _⟩ ⟨⟨_, _, _⟩, _, _, _⟩ h
  simp only [numbers, List.cons.injEq, and_true] at h
  obtain ⟨rfl, rfl, rfl, rfl, rfl, rfl⟩ := h
  rfl

/-- With smaller numbers, the date comes earlier, or the time does on the same date. -/
theorem earlier_of_numbers_lt {s t : CivilTime} (h : s.numbers < t.numbers) :
    s.date.Precedes t.date ∨ s.date = t.date ∧ s.timeOfDay < t.timeOfDay := by
  simp only [numbers, List.cons_lt_cons_iff, List.not_lt_nil, and_false, or_false] at h
  obtain hyear | ⟨hyear, hmonth | ⟨hmonth, hday | ⟨hday, htime⟩⟩⟩ := h
  · exact .inl (.inl hyear)
  · exact .inl (.inr ⟨hyear, .inl hmonth⟩)
  · exact .inl (.inr ⟨hyear, .inr ⟨hmonth, hday⟩⟩)
  · have hdate : Date.mk s.date.year s.date.month s.date.day =
        Date.mk t.date.year t.date.month t.date.day := by
      rw [hyear, hmonth, hday]
    have hminute := s.minute_lt
    have hsecond := s.second_lt
    refine .inr ⟨hdate, ?_⟩
    unfold timeOfDay
    omega

theorem seconds_lt_of_numbers_lt {s t : CivilTime} (h : s.numbers < t.numbers) :
    s.seconds < t.seconds := by
  unfold seconds
  obtain hdate | ⟨hdate, htime⟩ := earlier_of_numbers_lt h
  · have hdays := hdate.daysSince1970_lt s.isDate s.year_bounds.1
    have hpassed := s.timeOfDay_lt
    omega
  · rw [hdate]
    exact Nat.add_lt_add_left htime _

/-- **Later civil times have more seconds before them.** -/
theorem seconds_lt_iff {s t : CivilTime} : s.seconds < t.seconds ↔ s.numbers < t.numbers := by
  refine ⟨fun h => ?_, seconds_lt_of_numbers_lt⟩
  rcases lt_trichotomy s.numbers t.numbers with hlt | heq | hgt
  · exact hlt
  · rw [numbers_injective heq] at h
    exact absurd h (Nat.lt_irrefl _)
  · exact absurd (seconds_lt_of_numbers_lt hgt) (Nat.lt_asymm h)

/-- No two civil times have the same seconds before them. -/
theorem seconds_injective : Function.Injective seconds := by
  intro s t h
  apply numbers_injective
  rcases lt_trichotomy s.numbers t.numbers with hlt | heq | hgt
  · exact absurd h (Nat.ne_of_lt (seconds_lt_of_numbers_lt hlt))
  · exact heq
  · exact absurd h (Nat.ne_of_gt (seconds_lt_of_numbers_lt hgt))

/-! ### Text -/

/-- Year, month and day between hyphens, a space, and hour, minute and second between colons. -/
def columns : List Column :=
  [⟨4, ['-'], by decide⟩, ⟨2, ['-'], by decide⟩, ⟨2, [' '], by decide⟩,
    ⟨2, [':'], by decide⟩, ⟨2, [':'], by decide⟩, ⟨2, [], by decide⟩]

/-- The written form of a civil time. -/
def text (t : CivilTime) : String := String.ofList (Column.writeAll columns t.numbers)

/-- Reads the written form of a civil time. There is none if a number is out of its range. -/
def read? (s : String) : Option CivilTime :=
  match Column.readAll? columns s.toList with
  | some [year, month, day, hour, minute, second] =>
    if h : (Date.mk year month day).IsDate ∧ (1970 ≤ year ∧ year ≤ 9999) ∧
        hour < 24 ∧ minute < 60 ∧ second < 60 then
      some ⟨⟨year, month, day⟩, hour, minute, second, h.1, h.2.1, h.2.2.1, h.2.2.2.1, h.2.2.2.2⟩
    else none
  | _ => none

theorem fits_numbers (t : CivilTime) : List.Forall₂ Column.Fits columns t.numbers := by
  have hmonth := t.isDate.1.2
  have hday := t.isDate.day_le
  have hyear := t.year_bounds.2
  have hhour := t.hour_lt
  have hminute := t.minute_lt
  have hsecond := t.second_lt
  simp only [columns, numbers, List.forall₂_cons, List.forall₂_nil_left_iff, Column.Fits, and_true]
  omega

/-- **The written form of a civil time reads as that civil time.** -/
theorem read?_text (t : CivilTime) : read? t.text = some t := by
  have hvalid := And.intro t.isDate
    (And.intro t.year_bounds (And.intro t.hour_lt (And.intro t.minute_lt t.second_lt)))
  rw [read?, text, String.toList_ofList, Column.readAll?_writeAll t.fits_numbers]
  exact dif_pos hvalid

/-- Different seconds are written differently. -/
theorem text_eq_iff {s t : CivilTime} : s.text = t.text ↔ s.seconds = t.seconds := by
  constructor
  · intro h
    have hread := s.read?_text
    rw [h, t.read?_text] at hread
    rw [Option.some.inj hread]
  · exact fun h => congrArg text (seconds_injective h)

/-- **Written forms of civil times stand in the order of time.** -/
theorem text_lt_iff {s t : CivilTime} : s.text < t.text ↔ s.seconds < t.seconds := by
  rw [seconds_lt_iff, ← Column.writeAll_lt_iff s.fits_numbers t.fits_numbers, text, text,
    String.lt_iff, String.toList_ofList, String.toList_ofList]

end CivilTime

end PagedReports.Calendar
