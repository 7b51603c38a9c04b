import Mathlib.Algebra.BigOperators.Intervals
import Mathlib.Algebra.Order.BigOperators.Group.Finset
import PagedReports.Calendar.Moment

/-!
# Days of the calendar

The calendar itself is the rule for leap years and the lengths of the months (`daysInMonth`). All
else is counted from it: a year has the days of its twelve months, and a date comes as many days
after 1 January 1970 as the years, months and days before it make up (`Date.daysSince1970`).

Turning a count of days into a date divides by the lengths of the cycles of 400, 100, 4 and 1 years
instead. `Date.daysSince1970_ofDays` says that this is a date of the calendar and the right one, and
`Date.daysSince1970_lt` that later dates have more days before them.
-/

namespace PagedReports.Calendar

/-! ### Months and years -/

/-- A year with a 29 February: one in four, but of those that end a century only one in four. -/
def IsLeapYear (year : Nat) : Prop := 4 ∣ year ∧ (100 ∣ year → 400 ∣ year)

instance (year : Nat) : Decidable (IsLeapYear year) := inferInstanceAs (Decidable (_ ∧ _))

/-- How many days a month of a year has. -/
def daysInMonth (year : Nat) : Nat → Nat
  | 2 => if IsLeapYear year then 29 else 28
  | 4 | 6 | 9 | 11 => 30
  | _ => 31

/-- How many days a year has. -/
def daysInYear (year : Nat) : Nat := ∑ month ∈ Finset.Ico 1 13, daysInMonth year month

theorem daysInMonth_le (year month : Nat) : daysInMonth year month ≤ 31 := by
  unfold daysInMonth
  split
  · split <;> decide
  all_goals decide

theorem daysInYear_eq (year : Nat) : daysInYear year = if IsLeapYear year then 366 else 365 := by
  unfold daysInYear
  by_cases h : IsLeapYear year <;> simp [Finset.sum_Ico_succ_top, daysInMonth, h]

theorem isLeap_iff (year : Nat) : isLeap year = true ↔ IsLeapYear year := by
  simp only [isLeap, IsLeapYear, Bool.and_eq_true, Bool.or_eq_true, decide_eq_true_eq]
  omega

/-- The list of the lengths of the months. -/
theorem monthLengths_eq (year : Nat) :
    monthLengths year = (List.range' 1 12).map (daysInMonth year) := by
  simp only [monthLengths, isLeap_iff]
  rfl

/-- The first months of a year. -/
theorem sum_take_monthLengths (year : Nat) {n : Nat} (h : n ≤ 12) :
    ((monthLengths year).take n).sum = ∑ month ∈ Finset.Ico 1 (n + 1), daysInMonth year month := by
  rw [monthLengths_eq, ← List.map_take, List.take_range'_of_length_ge h]
  rfl

/-- A year adds its days to those before it. -/
theorem daysBeforeYear_succ {year : Nat} (h : 1 ≤ year) :
    daysBeforeYear (year + 1) = daysBeforeYear year + daysInYear year := by
  obtain ⟨n, rfl⟩ := Nat.exists_eq_add_of_le' h
  have hfours : n / 100 ≤ n / 4 := Nat.div_le_div_left (by decide) (by decide)
  have hcentury : 400 ∣ n + 1 → 100 ∣ n + 1 := Nat.dvd_trans (by decide)
  have hfour : 100 ∣ n + 1 → 4 ∣ n + 1 := Nat.dvd_trans (by decide)
  -- Each division grows by one where its divisor divides, and the divisors divide each other.
  simp only [daysBeforeYear, daysInYear_eq, IsLeapYear, Nat.add_sub_cancel, Nat.succ_div]
  generalize n / 4 = fours at hfours ⊢
  generalize n / 100 = hundreds at hfours ⊢
  by_cases h4 : 4 ∣ n + 1
  · by_cases h100 : 100 ∣ n + 1
    · by_cases h400 : 400 ∣ n + 1
      · simp only [h4, h100, h400, imp_self, and_self, if_true]
        omega
      · simp only [h4, h100, h400, true_imp_iff, and_false, if_true, if_false]
        omega
    · simp only [h4, h100, mt hcentury h100, false_imp_iff, and_self, if_true, if_false]
      omega
  · simp only [h4, mt hfour h4, mt hcentury (mt hfour h4), false_and, if_false]
    omega

/-- The closed form for the days before a year counts the years before it. -/
theorem daysBeforeYear_eq {year : Nat} (h : 1970 ≤ year) :
    daysBeforeYear year = daysBeforeEpoch + ∑ y ∈ Finset.Ico 1970 year, daysInYear y := by
  induction year, h using Nat.le_induction with
  | base => rfl
  | succ year h ih =>
    have hpos : 1 ≤ year := Nat.le_trans (by decide) h
    rw [daysBeforeYear_succ hpos, ih, Finset.sum_Ico_succ_top h, Nat.add_assoc]

theorem daysBeforeYear_mono : Monotone daysBeforeYear := by
  refine monotone_nat_of_le_succ fun year => ?_
  cases year with
  | zero => exact Nat.le_refl 0
  | succ year =>
    rw [daysBeforeYear_succ (Nat.succ_pos year)]
    exact Nat.le_add_right _ _

/-- A place in one of several spans of days comes before the end of that span, and so before every
later one. -/
theorem sum_Ico_add_lt (f : Nat → Nat) {start a b place : Nat} (hstart : start ≤ a) (hab : a < b)
    (hplace : place < f a) :
    ∑ i ∈ Finset.Ico start a, f i + place < ∑ i ∈ Finset.Ico start b, f i :=
  calc ∑ i ∈ Finset.Ico start a, f i + place
      < ∑ i ∈ Finset.Ico start a, f i + f a := Nat.add_lt_add_left hplace _
    _ = ∑ i ∈ Finset.Ico start (a + 1), f i := (Finset.sum_Ico_succ_top hstart f).symm
    _ ≤ ∑ i ∈ Finset.Ico start b, f i :=
      Finset.sum_le_sum_of_subset (Finset.Ico_subset_Ico_right hab)

/-! ### The date of a day -/

/-- The days before a year, by the cycles before it. -/
theorem daysBeforeYear_cycles (q : Nat) {c f y : Nat} (hc : c ≤ 3) (hf : f ≤ 24) (hy : y ≤ 3) :
    daysBeforeYear (400 * q + 100 * c + 4 * f + y + 1) =
      146097 * q + 36524 * c + 1461 * f + 365 * y := by
  unfold daysBeforeYear
  omega

/-- A leap year is the last of its four, and a fourth that ends a century is one only in the last
century of its four. -/
theorem isLeapYear_cycles (q : Nat) {c f y : Nat} (hc : c ≤ 3) (hf : f ≤ 24) (hy : y ≤ 3) :
    IsLeapYear (400 * q + 100 * c + 4 * f + y + 1) ↔ y = 3 ∧ (f = 24 → c = 3) := by
  unfold IsLeapYear
  omega

/-- The year of a day, and its place in that year. -/
theorem yearOfDays_spec (days : Nat) :
    daysBeforeYear (yearOfDays days).1 + (yearOfDays days).2 = days ∧
      (yearOfDays days).2 < daysInYear (yearOfDays days).1 := by
  unfold yearOfDays
  simp only
  generalize hinFourHundred : days % 146097 = inFourHundred
  generalize hc : min 3 (inFourHundred / 36524) = c
  generalize hinCentury : inFourHundred - 36524 * c = inCentury
  generalize hinFour : inCentury % 1461 = inFour
  generalize hy : min 3 (inFour / 365) = y
  -- The last century and the last year may be a day longer than the others; the last four years
  -- of the other centuries are a day shorter.
  have hcentury : inCentury < 36524 ∨ c = 3 ∧ inCentury = 36524 := by omega
  have hyear : inFour - 365 * y < 365 ∨ y = 3 ∧ inFour - 365 * y = 365 := by omega
  have hf : inCentury / 1461 ≤ 24 := by omega
  rw [daysInYear_eq, daysBeforeYear_cycles _ (by omega) hf (by omega)]
  simp only [isLeapYear_cycles (days / 146097) (show c ≤ 3 by omega) hf (show y ≤ 3 by omega)]
  constructor
  · omega
  · split <;> omega

/-- A day lies in one of the runs of days, at the place that the runs before it leave over. -/
theorem findMonth_spec {lengths : List Nat} {day : Nat} (month : Nat) (h : day < lengths.sum) :
    ∃ (n : Nat) (hn : n < lengths.length) (place : Nat),
      findMonth lengths month day = (month + n, place) ∧
        place < lengths[n] ∧ (lengths.take n).sum + place = day := by
  induction lengths generalizing month day with
  | nil => exact absurd h (Nat.not_lt_zero _)
  | cons length rest ih =>
    unfold findMonth
    split
    · rename_i hday
      exact ⟨0, Nat.zero_lt_succ _, day, rfl, hday, Nat.zero_add _⟩
    · rename_i hday
      rw [List.sum_cons] at h
      obtain ⟨n, hn, place, hfound, hplace, hsum⟩ := ih (month + 1) (show day - length < _ by omega)
      refine ⟨n + 1, Nat.succ_lt_succ hn, place, ?_, hplace, ?_⟩
      · rw [hfound, Nat.add_assoc, Nat.add_comm 1 n]
      · rw [List.take_succ_cons, List.sum_cons]
        omega

namespace Date

/-- A day of the calendar. -/
def IsDate (d : Date) : Prop :=
  (1 ≤ d.month ∧ d.month ≤ 12) ∧ 1 ≤ d.day ∧ d.day ≤ daysInMonth d.year d.month

instance (d : Date) : Decidable d.IsDate := inferInstanceAs (Decidable (_ ∧ _))

/-- How many days of the year come before a date. -/
def daysOfYearBefore (d : Date) : Nat :=
  (∑ month ∈ Finset.Ico 1 d.month, daysInMonth d.year month) + (d.day - 1)

/-- How many days from 1 January 1970 on come before a date: those of the years before its year,
of the months before its month and of the days before its day. -/
def daysSince1970 (d : Date) : Nat :=
  (∑ year ∈ Finset.Ico 1970 d.year, daysInYear year) + d.daysOfYearBefore

theorem IsDate.day_lt {d : Date} (h : d.IsDate) : d.day - 1 < daysInMonth d.year d.month := by
  have hday := h.2
  omega

theorem IsDate.day_le {d : Date} (h : d.IsDate) : d.day ≤ 31 :=
  Nat.le_trans h.2.2 (daysInMonth_le _ _)

theorem IsDate.daysOfYearBefore_lt {d : Date} (h : d.IsDate) :
    d.daysOfYearBefore < daysInYear d.year :=
  sum_Ico_add_lt _ h.1.1 (Nat.lt_succ_of_le h.1.2) h.day_lt

/-- The date of a day is a date of the calendar, with so many days before it. -/
theorem ofDays_spec (days : Nat) :
    (ofDays days).IsDate ∧
      daysBeforeYear (ofDays days).year + (ofDays days).daysOfYearBefore = days := by
  obtain ⟨hdays, hyear⟩ := yearOfDays_spec days
  have hmonths : (monthLengths (yearOfDays days).1).sum = daysInYear (yearOfDays days).1 :=
    sum_take_monthLengths _ (Nat.le_refl 12)
  obtain ⟨n, hn, place, hfound, hplace, hsum⟩ := findMonth_spec 0 (hmonths ▸ hyear)
  have hn12 : n < 12 := hn
  rw [sum_take_monthLengths _ (Nat.le_of_lt hn12)] at hsum
  have hlength :
      daysInMonth (yearOfDays days).1 (n + 1) = (monthLengths (yearOfDays days).1)[n] := by
    simp [monthLengths_eq, Nat.add_comm]
  unfold IsDate daysOfYearBefore ofDays
  simp only [hfound, Nat.zero_add, hlength, Nat.add_sub_cancel]
  omega

/-- A date is in or after a year if all days before that year have passed. -/
theorem le_year_ofDays_iff (year days : Nat) :
    year ≤ (ofDays days).year ↔ daysBeforeYear year ≤ days := by
  have hpos : 1 ≤ (ofDays days).year := Nat.succ_pos _
  obtain ⟨hdate, hdays⟩ := ofDays_spec days
  constructor
  · intro h
    have hmono := daysBeforeYear_mono h
    omega
  · intro h
    -- Otherwise the year after the date's begins no later, and the date is before that one.
    by_contra hlt
    have hmono := daysBeforeYear_mono (Nat.lt_of_not_le hlt)
    rw [daysBeforeYear_succ hpos] at hmono
    have hplace := hdate.daysOfYearBefore_lt
    omega

/-- **The date of a day from 1 January 1970 on has exactly that many days before it.** -/
theorem daysSince1970_ofDays (days : Nat) :
    (ofDays (daysBeforeEpoch + days)).daysSince1970 = days := by
  have hyear : 1970 ≤ (ofDays (daysBeforeEpoch + days)).year :=
    (le_year_ofDays_iff _ _).2 (Nat.le_add_right _ _)
  have hdays := (ofDays_spec (daysBeforeEpoch + days)).2
  rw [daysBeforeYear_eq hyear] at hdays
  unfold daysSince1970
  omega

example : ofDays (daysBeforeEpoch + 11016) = ⟨2000, 2, 29⟩ := by decide +kernel

/-! ### Order -/

/-- An earlier year, or an earlier month of the same year, or an earlier day of the same month. -/
def Precedes (d e : Date) : Prop :=
  d.year < e.year ∨ d.year = e.year ∧ (d.month < e.month ∨ d.month = e.month ∧ d.day < e.day)

/-- **A later date has more days before it.** -/
theorem Precedes.daysSince1970_lt {d e : Date} (h : d.Precedes e) (hd : d.IsDate)
    (hyear : 1970 ≤ d.year) : d.daysSince1970 < e.daysSince1970 := by
  unfold daysSince1970
  obtain hlt | ⟨hsame, hlt | ⟨hmonth, hlt⟩⟩ := h
  · exact Nat.lt_add_right _ (sum_Ico_add_lt _ hyear hlt hd.daysOfYearBefore_lt)
  · rw [← hsame, Nat.add_lt_add_iff_left, daysOfYearBefore, daysOfYearBefore, ← hsame]
    exact Nat.lt_add_right _ (sum_Ico_add_lt _ hd.1.1 hlt hd.day_lt)
  · have hday := hd.2.1
    rw [← hsame, Nat.add_lt_add_iff_left, daysOfYearBefore, daysOfYearBefore, ← hsame, ← hmonth]
    omega

end Date

end PagedReports.Calendar
