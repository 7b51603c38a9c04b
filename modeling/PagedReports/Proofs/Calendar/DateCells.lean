import PagedReports.Proofs.Calendar.CivilTime
import PagedReports.Proofs.Text.Utf8
import PagedReports.Report.Cell

/-!
# Date cells name instants

With the pattern `%Y-%m-%d %H:%M:%S`, the cell of a second from 1970 to the end of 9999 is the
written form of its civil time (`Pattern.write_dateTime`), which comes just as many seconds after
the start of 1970 (`Moment.seconds_civilTime`). So a date cell names one instant, and the cells
stand in the order of time (`dateCells_exact`).
-/

namespace PagedReports.Calendar

/-! ### The civil time of a moment -/

namespace Moment

/-- The last second of 9999. -/
def lastOf9999 : Nat := 253402300799

theorem year_bounds {m : Moment} (h : m.epoch ≤ lastOf9999) :
    1970 ≤ m.date.year ∧ m.date.year ≤ 9999 := by
  have hdays := Nat.le_add_right daysBeforeEpoch (m.epoch / 86400)
  refine ⟨(Date.le_year_ofDays_iff 1970 _).2 hdays, ?_⟩
  -- The days of the last second of 9999 are one too few for the year after it.
  have hnext : daysBeforeYear 10000 = daysBeforeEpoch + (lastOf9999 + 1) / 86400 := rfl
  by_contra hlater
  have hten := (Date.le_year_ofDays_iff 10000 _).1 (Nat.lt_of_not_le hlater)
  unfold lastOf9999 at h hnext
  omega

/-- The civil time of a moment up to the end of 9999. -/
def civilTime (m : Moment) (h : m.epoch ≤ lastOf9999) : CivilTime where
  date := m.date
  hour := m.hour
  minute := m.minute
  second := m.second
  isDate := (Date.ofDays_spec _).1
  year_bounds := year_bounds h
  hour_lt := by
    unfold hour
    omega
  minute_lt := by
    unfold minute
    omega
  second_lt := Nat.mod_lt _ (by decide)

/-- **The civil time of a moment has as many seconds before it as the moment.** -/
theorem seconds_civilTime {m : Moment} (h : m.epoch ≤ lastOf9999) :
    (m.civilTime h).seconds = m.epoch := by
  have hdays : m.date.daysSince1970 = m.epoch / 86400 := Date.daysSince1970_ofDays _
  have htime : (m.civilTime h).timeOfDay = m.epoch % 86400 := by
    simp only [civilTime, CivilTime.timeOfDay, hour, minute, second]
    omega
  rw [CivilTime.seconds, htime]
  change m.date.daysSince1970 * 86400 + _ = _
  rw [hdays]
  omega

end Moment

/-! ### Writing -/

namespace Pattern

/-- Date and time of day, the largest unit first. -/
def dateTime : Pattern :=
  [zeros .year, .literal "-", zeros .month, .literal "-", zeros .day, .literal " ", zeros .hour,
    .literal ":", zeros .minute, .literal ":", zeros .second]

theorem parse?_dateTime : parse? "%Y-%m-%d %H:%M:%S" = some dateTime := by decide +kernel

theorem toList_yearText {year : Nat} (h : year < 10000) :
    (yearText year).toList = Text.padded 4 year := by
  rw [yearText, if_pos h, fill, String.toList_append, String.toList_ofList, Nat.toList_repr,
    ← String.length_toList, Nat.toList_repr]
  rfl

theorem toList_twoDigits {n : Nat} (h : n < 100) :
    (twoDigits n .zero).toList = Text.padded 2 n := by
  have hall : ∀ n < 100, (twoDigits n .zero).toList = Text.padded 2 n := by decide +kernel
  exact hall n h

/-- **A moment is written as its civil time.** -/
theorem write_dateTime {m : Moment} (h : m.epoch ≤ Moment.lastOf9999) :
    dateTime.write m = (m.civilTime h).text := by
  let t := m.civilTime h
  have hyear := toList_yearText (Nat.lt_succ_of_le t.year_bounds.2)
  have hmonth := toList_twoDigits (Nat.lt_of_le_of_lt t.isDate.1.2 (by decide))
  have hday := toList_twoDigits (Nat.lt_of_le_of_lt t.isDate.day_le (by decide))
  have hhour := toList_twoDigits (Nat.lt_trans t.hour_lt (by decide))
  have hminute := toList_twoDigits (Nat.lt_trans t.minute_lt (by decide))
  have hsecond := toList_twoDigits (Nat.lt_trans t.second_lt (by decide))
  simp only [t, Moment.civilTime] at hyear hmonth hday hhour hminute hsecond
  rw [← String.toList_inj, write, String.toList_join, CivilTime.text, String.toList_ofList]
  simp [dateTime, zeros, writeItem, writeField, CivilTime.columns, CivilTime.numbers,
    Text.Column.writeAll, Moment.civilTime, hyear, hmonth, hday, hhour, hminute, hsecond]

end Pattern

/-! ### Cells -/

/-- A count of seconds after the start of 1970, up to the last second of 9999. -/
def Dated (n : Int64) : Prop := 1 ≤ n ∧ n ≤ 253402300799

instance (n : Int64) : Decidable (Dated n) := inferInstanceAs (Decidable (_ ∧ _))

theorem dateText?_of_le_zero (pattern : String) {n : Int64} (h : n ≤ 0) :
    dateText? pattern n = some "-" := by
  have hn : n.toInt ≤ 0 := Int64.le_iff_toInt_le.1 h
  rw [dateText?, Moment.ofSeconds?, if_neg (by omega)]

/-- The text of a dated second is that of its civil time. -/
theorem dateText?_of_dated {n : Int64} (h : Dated n) : ∃ t : CivilTime,
    dateText? "%Y-%m-%d %H:%M:%S" n = some t.text ∧ (t.seconds : Int) = n.toInt := by
  have hmin : 1 ≤ n.toInt := Int64.le_iff_toInt_le.1 h.1
  have hmax : n.toInt ≤ 253402300799 := Int64.le_iff_toInt_le.1 h.2
  have hepoch : (Moment.mk n.toInt.toNat).epoch ≤ Moment.lastOf9999 := Int.toNat_le.2 hmax
  have hlimit : 0 < n.toInt ∧ n.toInt < Moment.limit := by
    unfold Moment.limit
    omega
  refine ⟨Moment.civilTime _ hepoch, ?_, ?_⟩
  · rw [dateText?, Moment.ofSeconds?, if_pos hlimit, Pattern.parse?_dateTime]
    exact congrArg some (Pattern.write_dateTime hepoch)
  · rw [Moment.seconds_civilTime]
    exact Int.toNat_of_nonneg (by omega)

theorem date_eq_ok {f : Formatter} {n : Int64} {s : String}
    (h : dateText? f.dateFormat n = some s) : f.date n = .ok (.text s) := by
  rw [Formatter.date, h]

/-- **Date cells name the right instant.** With any pattern, the cell of a count of seconds that is
not after the start of 1970 is a dash. With the pattern of date and time of day, the cell of every
later second up to the end of 9999 is the written form of a date of the calendar and a time of day;
it reads as these, and the days since 1 January 1970 and the time of day make up the count again.
Cells of different seconds differ, and the bytes of the cells stand in the order of time. -/
theorem dateCells_exact :
    (∀ (f : Formatter) (n : Int64), n ≤ 0 →
      dateText? f.dateFormat n = some "-" ∧ f.date n = .ok (.text "-")) ∧
    ∀ f : Formatter, f.dateFormat = "%Y-%m-%d %H:%M:%S" →
      (∀ n : Int64, Dated n → ∃ t : CivilTime,
        dateText? f.dateFormat n = some t.text ∧ f.date n = .ok (.text t.text) ∧
          CivilTime.read? t.text = some t ∧
          ((t.date.daysSince1970 * 86400 + t.timeOfDay : Nat) : Int) = n.toInt) ∧
      ∀ m n : Int64, Dated m → Dated n → ∀ a b : String,
        f.date m = .ok (.text a) → f.date n = .ok (.text b) →
          (a = b ↔ m = n) ∧ (Text.Utf8.encode a < Text.Utf8.encode b ↔ m < n) := by
  refine ⟨fun f n hn => ?_, fun f hf => ⟨fun n hn => ?_, ?_⟩⟩
  · have hdash := dateText?_of_le_zero f.dateFormat hn
    exact ⟨hdash, date_eq_ok hdash⟩
  · obtain ⟨t, htext, hseconds⟩ := dateText?_of_dated hn
    rw [← hf] at htext
    exact ⟨t, htext, date_eq_ok htext, t.read?_text, hseconds⟩
  · intro m n hm hn a b ha hb
    obtain ⟨s, hs, hseconds⟩ := dateText?_of_dated hm
    obtain ⟨t, ht, htseconds⟩ := dateText?_of_dated hn
    rw [← hf] at hs ht
    rw [date_eq_ok hs] at ha
    rw [date_eq_ok ht] at hb
    cases ha
    cases hb
    constructor
    · rw [CivilTime.text_eq_iff, ← Int64.toInt_inj]
      omega
    · rw [Text.Utf8.encode_lt_encode_iff, CivilTime.text_lt_iff, Int64.lt_iff_toInt_lt]
      omega

/-- The dash before 1970, the ends of a leap day and of a leap day's month, and the last second of
9999. -/
theorem dateCells_of_leapDay :
    let f : Formatter := ⟨"%Y-%m-%d %H:%M:%S", ""⟩
    ((0 : Int64) ≤ 0 ∧ f.date 0 = .ok (.text "-")) ∧
    (Dated 951868799 ∧ f.date 951868799 = .ok (.text "2000-02-29 23:59:59") ∧
      ∃ t : CivilTime, f.date 951868799 = .ok (.text t.text) ∧ CivilTime.read? t.text = some t ∧
        t.date.daysSince1970 * 86400 + t.timeOfDay = 951868799) ∧
    Dated 253402300799 ∧ f.date 253402300799 = .ok (.text "9999-12-31 23:59:59") ∧
    Text.Utf8.encode "2000-02-29 23:59:59" < Text.Utf8.encode "9999-12-31 23:59:59" := by
  intro f
  have hf : f.dateFormat = "%Y-%m-%d %H:%M:%S" := rfl
  have hleap : Dated 951868799 := by decide
  have hlast : Dated 253402300799 := by decide
  have hleapCell : f.date 951868799 = .ok (.text "2000-02-29 23:59:59") := by decide +kernel
  have hlastCell : f.date 253402300799 = .ok (.text "9999-12-31 23:59:59") := by decide +kernel
  obtain ⟨hdash, hdated⟩ := dateCells_exact
  obtain ⟨hcell, horder⟩ := hdated f hf
  obtain ⟨t, -, hdate, hread, hseconds⟩ := hcell 951868799 hleap
  refine ⟨⟨by decide, (hdash f 0 (by decide)).2⟩, ⟨hleap, hleapCell, t, hdate, hread, ?_⟩, hlast,
    hlastCell, ?_⟩
  · exact Int.ofNat.inj hseconds
  · exact (horder _ _ hleap hlast _ _ hleapCell hlastCell).2.2 (by decide)

end PagedReports.Calendar
