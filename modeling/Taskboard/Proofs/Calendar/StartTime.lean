import Taskboard.Calendar.StartTime
import Taskboard.Proofs.Calendar.Gregorian
import Taskboard.Proofs.Number.Padded

/-! What the text of a start time tells. Behind the year every part has its fixed width, so that the parts can be cut
    off from the right, and the year, which is never cut, is what remains. Nothing of the moment is lost but the
    milliseconds and the half of the day: two start times have the same text exactly if they lie on one day and are
    the same second or twelve hours apart (`startTime_shows`). -/

namespace Taskboard

/-- The two digits of a number below a hundred. -/
def Numeral.IsPair (n : Int) (s : List Char) : Prop := s.length = 2 ∧ Numeral.Spells 2 n s

namespace Moment
open Numeral (IsPair)

/-- A moment of the calendar and of the clock. -/
structure Valid (m : Moment) : Prop where
  date : m.date.Valid
  hour : m.hour < 24
  minute : m.minute < 60
  second : m.second < 60

/-! ### The moment of a count of milliseconds -/

section OfMillis
variable (ms : Int)

theorem toDays_ofMillis : (ofMillis ms).date.toDays = ms / 1000 / 86400 := Date.toDays_ofDays _

theorem hour_ofMillis : ((ofMillis ms).hour : Int) = ms / 1000 / 3600 % 24 := by
  show (((ms / 1000 % 86400).toNat / 3600 : Nat) : Int) = _
  omega

theorem minute_ofMillis : ((ofMillis ms).minute : Int) = ms / 1000 / 60 % 60 := by
  show (((ms / 1000 % 86400).toNat % 3600 / 60 : Nat) : Int) = _
  omega

theorem second_ofMillis : ((ofMillis ms).second : Int) = ms / 1000 % 60 := by
  show (((ms / 1000 % 86400).toNat % 60 : Nat) : Int) = _
  omega

theorem valid_ofMillis : (ofMillis ms).Valid where
  date := Date.valid_ofDays _
  hour := by
    have hhour := hour_ofMillis ms
    omega
  minute := by
    have hminute := minute_ofMillis ms
    omega
  second := by
    have hsecond := second_ofMillis ms
    omega

/-- Four hundred years have 146097 days. -/
theorem year_mem_ofMillis : 146097 * ((ofMillis ms).date.year - 1971) ≤ 400 * (ms / 1000 / 86400) ∧
    400 * (ms / 1000 / 86400) ≤ 146097 * ((ofMillis ms).date.year - 1968) := by
  have hdays := toDays_ofMillis ms
  obtain ⟨hmonth, hmonth', hday, hday'⟩ := (valid_ofMillis ms).date
  have hlength := Date.monthLength_le (ofMillis ms).date.year (ofMillis ms).date.month
  simp only [Date.toDays, Date.yearStart, Date.monthStart, Date.epoch] at hdays
  split at hdays <;> omega

/-- A year is no longer than its start time, unless both are short. -/
theorem natAbs_year_lt {bound : Nat} (hbound : 10000 ≤ bound) (h : ms.natAbs < bound) :
    (ofMillis ms).date.year.natAbs < bound := by
  obtain ⟨hlow, hhigh⟩ := year_mem_ofMillis ms
  omega

/-- A start time that has eleven digits more than a number has a longer year. -/
theorem le_year {bound : Nat} (h : 10 ^ 11 * (bound : Int) ≤ ms) : (bound : Int) ≤ (ofMillis ms).date.year := by
  obtain ⟨hlow, hhigh⟩ := year_mem_ofMillis ms
  omega

end OfMillis

/-! ### The dial -/

theorem dialHour_mem (m : Moment) : 1 ≤ m.dialHour ∧ m.dialHour ≤ 12 := by
  unfold dialHour
  split <;> omega

theorem dialHour_mod (m : Moment) : m.dialHour % 12 = m.hour % 12 := by
  unfold dialHour
  split <;> omega

/-- The dial shows two hours alike exactly if they are the same or half a day apart. -/
theorem dialHour_eq_iff {m m' : Moment} : m.dialHour = m'.dialHour ↔ m.hour % 12 = m'.hour % 12 := by
  have hmod := m.dialHour_mod
  have hmod' := m'.dialHour_mod
  have hmem := m.dialHour_mem
  have hmem' := m'.dialHour_mem
  omega

/-! ### The text -/

theorem isPair_two {n : Nat} (h : n < 100) : IsPair n (chars.two n) :=
  ⟨Numeral.length_padded (by decide) h, Numeral.spells_padded 2 n⟩

/-- Two digits behind a mark can be cut off, and are read as one number. -/
theorem field_inj {s t : List Char} {mark : Char} {m n : Nat} (hm : m < 100) (hn : n < 100)
    (h : s ++ mark :: chars.two m = t ++ mark :: chars.two n) : s = t ∧ m = n := by
  have hlength : (mark :: chars.two m).length = (mark :: chars.two n).length := by
    rw [List.length_cons, List.length_cons, (isPair_two hm).1, (isPair_two hn).1]
  obtain ⟨hfront, hfield⟩ := List.append_inj' h hlength
  exact ⟨hfront, Int.ofNat_inj.mp (Numeral.padded_injective 2 (List.cons.inj hfield).2)⟩

theorem Valid.two_digits {m : Moment} (hm : m.Valid) :
    m.date.month < 100 ∧ m.date.day < 100 ∧ m.dialHour < 100 ∧ m.minute < 100 ∧ m.second < 100 := by
  have hmonth := hm.date.month_le
  have hday := hm.date.day_le.trans (Date.monthLength_le _ _)
  have hhour := m.dialHour_mem
  have hminute := hm.minute
  have hsecond := hm.second
  omega

/-- The text tells the date and what the dial shows. -/
theorem chars_eq_iff {m m' : Moment} (hm : m.Valid) (hm' : m'.Valid) :
    m.chars = m'.chars ↔
      m.date = m'.date ∧ m.dialHour = m'.dialHour ∧ m.minute = m'.minute ∧ m.second = m'.second := by
  constructor
  · intro h
    obtain ⟨hmonth, hday, hhour, hminute, hsecond⟩ := hm.two_digits
    obtain ⟨hmonth', hday', hhour', hminute', hsecond'⟩ := hm'.two_digits
    -- The parts are cut off from the right, and what is left in the end is the year.
    obtain ⟨h, sameSecond⟩ := field_inj hsecond hsecond' (List.append_cancel_right h)
    obtain ⟨h, sameMinute⟩ := field_inj hminute hminute' h
    obtain ⟨h, sameHour⟩ := field_inj hhour hhour' h
    obtain ⟨h, sameDay⟩ := field_inj hday hday' h
    obtain ⟨h, sameMonth⟩ := field_inj hmonth hmonth' h
    have sameYear := Numeral.padded_injective 4 h
    exact ⟨Date.eq_of_parts sameYear sameMonth sameDay, sameHour, sameMinute, sameSecond⟩
  · rintro ⟨hdate, hhour, hminute, hsecond⟩
    rw [chars, chars, hdate, hhour, hminute, hsecond]

/-- No two days have the same date. -/
theorem date_ofMillis_eq_iff {a b : Int} :
    (ofMillis a).date = (ofMillis b).date ↔ a / 1000 / 86400 = b / 1000 / 86400 :=
  (Function.LeftInverse.injective Date.toDays_ofDays).eq_iff

/-- What the dial shows, the minute and the second tell the second of the half of the day. -/
theorem clock_ofMillis_eq_iff {a b : Int} :
    ((ofMillis a).dialHour = (ofMillis b).dialHour ∧ (ofMillis a).minute = (ofMillis b).minute ∧
      (ofMillis a).second = (ofMillis b).second) ↔ a / 1000 % 43200 = b / 1000 % 43200 := by
  have hhour : (ofMillis a).hour % 12 = (ofMillis b).hour % 12 ↔ a / 1000 / 3600 % 12 = b / 1000 / 3600 % 12 := by
    have ha := hour_ofMillis a
    have hb := hour_ofMillis b
    omega
  have hminute : (ofMillis a).minute = (ofMillis b).minute ↔ a / 1000 / 60 % 60 = b / 1000 / 60 % 60 := by
    rw [← Int.ofNat_inj, minute_ofMillis, minute_ofMillis]
  have hsecond : (ofMillis a).second = (ofMillis b).second ↔ a / 1000 % 60 = b / 1000 % 60 := by
    rw [← Int.ofNat_inj, second_ofMillis, second_ofMillis]
  rw [dialHour_eq_iff, hhour, hminute, hsecond]
  generalize a / 1000 = x, b / 1000 = y
  have hsplit (x : Int) : x % 43200 = 3600 * (x / 3600 % 12) + 60 * (x / 60 % 60) + x % 60 := by omega
  have hx := hsplit x
  have hy := hsplit y
  omega

theorem chars_ofMillis_eq_iff {a b : Int} : (ofMillis a).chars = (ofMillis b).chars ↔
    a / 1000 / 86400 = b / 1000 / 86400 ∧ (a / 1000 = b / 1000 ∨ (a / 1000 - b / 1000).natAbs = 43200) := by
  rw [chars_eq_iff (valid_ofMillis a) (valid_ofMillis b), date_ofMillis_eq_iff, clock_ofMillis_eq_iff]
  -- Seconds of one day that leave the same remainder are no further apart than half a day.
  omega

end Moment

/-- The text of a start time consists of the date of its day in the Gregorian calendar, the hour on a dial of twelve,
    the minute and the second. The year takes four characters or more, a minus sign among them, and is never cut.
    Two start times have the same text exactly if they lie on the same day and are the same second of it, or twelve
    hours apart. -/
theorem startTime_shows :
    (∀ ms : Int, ∃ (date : Date) (dial : Nat) (year month day hour minute second : List Char),
      (startTime ms).toList =
        year ++ '-' :: month ++ '-' :: day ++ '_' :: hour ++ ':' :: minute ++ ':' :: second ++ " UTC".toList ∧
      (date.Valid ∧ date.toDays = ms / 86400000) ∧
      (1 ≤ dial ∧ dial ≤ 12 ∧ (dial : Int) % 12 = ms / 3600000 % 24 % 12) ∧
      Numeral.Spells 4 date.year year ∧ Numeral.IsPair date.month month ∧ Numeral.IsPair date.day day ∧
      Numeral.IsPair dial hour ∧ Numeral.IsPair (ms / 60000 % 60) minute ∧ Numeral.IsPair (ms / 1000 % 60) second) ∧
    ∀ a b : Int, startTime a = startTime b ↔
      a / 1000 / 86400 = b / 1000 / 86400 ∧ (a / 1000 = b / 1000 ∨ (a / 1000 - b / 1000).natAbs = 43200) := by
  constructor
  · intro ms
    have hvalid := Moment.valid_ofMillis ms
    obtain ⟨hmonth, hday, hhour, hminute, hsecond⟩ := hvalid.two_digits
    have hdial := (Moment.ofMillis ms).dialHour_mem
    have hmod := (Moment.ofMillis ms).dialHour_mod
    refine ⟨(Moment.ofMillis ms).date, (Moment.ofMillis ms).dialHour, _, _, _, _, _, _, String.toList_ofList,
      ⟨hvalid.date, ?_⟩, ⟨hdial.1, hdial.2, ?_⟩, Numeral.spells_padded 4 _, Moment.isPair_two hmonth,
      Moment.isPair_two hday, Moment.isPair_two hhour, ?_, ?_⟩
    · rw [Moment.toDays_ofMillis]
      omega
    · have hclock := Moment.hour_ofMillis ms
      omega
    · rw [show ms / 60000 % 60 = ms / 1000 / 60 % 60 by omega, ← Moment.minute_ofMillis]
      exact Moment.isPair_two hminute
    · rw [← Moment.second_ofMillis]
      exact Moment.isPair_two hsecond
  · intro a b
    rw [startTime, startTime, Moment.text, Moment.text, String.ofList_inj]
    exact Moment.chars_ofMillis_eq_iff

/-! The minus sign is one of the four characters, and midnight is shown as noon is. -/

example : startTime (-62198755200000) = "-001-01-01_12:00:00 UTC" := by decide +kernel

example : startTime 0 = startTime 43200000 := by decide +kernel

end Taskboard
