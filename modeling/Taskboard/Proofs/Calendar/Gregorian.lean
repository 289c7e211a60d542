import Mathlib.Data.Int.Init
import Mathlib.Tactic.IntervalCases
import Taskboard.Calendar.Civil

/-! The dates are those of the proleptic Gregorian calendar. Its rule is one of succession (`Date.next`): a month has
    so many days, a year twelve months. `Date.toDays` counts the days up to a date, and `Date.ofDays` is its inverse:
    so the days follow each other as the dates do, before 1970 and after it, and no date is left out
    (`Date.ofDays_gregorian`). -/

namespace Taskboard
namespace Date

/-! ### The calendar -/

/-- Every fourth year has a leap day, but of the years that begin a century only every fourth. -/
def IsLeap (year : Int) : Prop := year % 4 = 0 ∧ (year % 100 ≠ 0 ∨ year % 400 = 0)

instance (year : Int) : Decidable (IsLeap year) := inferInstanceAs (Decidable (_ ∧ _))

def monthLength (year : Int) (month : Nat) : Nat :=
  if month = 2 then if IsLeap year then 29 else 28
  else if month = 4 ∨ month = 6 ∨ month = 9 ∨ month = 11 then 30
  else 31

/-- A date that the calendar has. -/
structure Valid (date : Date) : Prop where
  month_pos : 1 ≤ date.month
  month_le : date.month ≤ 12
  day_pos : 1 ≤ date.day
  day_le : date.day ≤ monthLength date.year date.month

/-- The date of the day after. -/
def next (date : Date) : Date :=
  if date.day < monthLength date.year date.month then ⟨date.year, date.month, date.day + 1⟩
  else if date.month < 12 then ⟨date.year, date.month + 1, 1⟩
  else ⟨date.year + 1, 1, 1⟩

/-- Dates are ordered by their years, then by their months, then by their days. -/
instance : LT Date where
  lt a b := a.year < b.year ∨ a.year = b.year ∧ (a.month < b.month ∨ a.month = b.month ∧ a.day < b.day)

section Calendar
variable {date : Date} {year : Int} {month : Nat}

theorem eq_of_parts {a b : Date} (hyear : a.year = b.year) (hmonth : a.month = b.month) (hday : a.day = b.day) :
    a = b := by
  cases a
  cases b
  cases hyear
  cases hmonth
  cases hday
  rfl

theorem lt_iff {a b : Date} : a < b ↔
    a.year < b.year ∨ a.year = b.year ∧ (a.month < b.month ∨ a.month = b.month ∧ a.day < b.day) :=
  Iff.rfl

protected theorem lt_irrefl (a : Date) : ¬a < a := by
  rw [lt_iff]
  omega

protected theorem lt_trans {a b c : Date} (hab : a < b) (hbc : b < c) : a < c := by
  rw [lt_iff] at hab hbc ⊢
  omega

theorem lt_next (date : Date) : date < date.next := by
  rw [lt_iff, next]
  split
  · exact .inr ⟨rfl, .inr ⟨rfl, Nat.lt_succ_self _⟩⟩
  · split
    · exact .inr ⟨rfl, .inl (Nat.lt_succ_self _)⟩
    · exact .inl (Int.lt_succ _)

theorem monthLength_pos (year : Int) (month : Nat) : 1 ≤ monthLength year month := by
  unfold monthLength
  split
  · split <;> decide
  · split <;> decide

theorem monthLength_le (year : Int) (month : Nat) : monthLength year month ≤ 31 := by
  unfold monthLength
  split
  · split <;> decide
  · split <;> decide

theorem Valid.next (h : date.Valid) : date.next.Valid := by
  unfold Date.next
  split
  next hday => exact ⟨h.month_pos, h.month_le, Nat.le_add_left _ _, hday⟩
  next =>
    split
    next hmonth => exact ⟨Nat.le_add_left _ _, hmonth, Nat.le_refl _, monthLength_pos _ _⟩
    next => exact ⟨Nat.le_refl 1, Nat.le_add_left 1 11, Nat.le_refl 1, monthLength_pos _ _⟩

end Calendar

/-! ### Counting days

The count begins on 1 March, as that of `ofDays` does. -/

/-- The number of 1 March of a year. -/
def yearStart (year : Int) : Int := 365 * year + year / 4 - year / 100 + year / 400

/-- The days from 1 March of a year to the next. -/
def yearDays (year : Int) : Nat := if IsLeap (year + 1) then 366 else 365

/-- The days from 1 March to the first day of a month, of which March is the first and has the number nought. -/
def monthStart (month : Nat) : Nat := (153 * month + 2) / 5

/-- The number of a date, that of 1 January 1970 being nought. -/
def toDays (date : Date) : Int :=
  yearStart (if date.month < 3 then date.year - 1 else date.year) + monthStart ((date.month + 9) % 12) +
    (date.day - 1) - epoch

section Counting
variable {date : Date} {year : Int} {month day : Nat}

theorem yearStart_succ (year : Int) : yearStart (year + 1) = yearStart year + yearDays year := by
  unfold yearStart yearDays
  by_cases h : IsLeap (year + 1)
  · rw [if_pos h]
    unfold IsLeap at h
    omega
  · rw [if_neg h]
    unfold IsLeap at h
    omega

/-- An era later the calendar is the same. -/
theorem yearStart_add_era (year era : Int) : yearStart (year + 400 * era) = yearStart year + 146097 * era := by
  unfold yearStart
  omega

theorem isLeap_add_era (year era : Int) : IsLeap (year + 400 * era) ↔ IsLeap year := by
  unfold IsLeap
  omega

theorem monthLength_add_era (year era : Int) (month : Nat) :
    monthLength (year + 400 * era) month = monthLength year month := by
  simp only [monthLength, isLeap_add_era]

theorem toDays_add_era (date : Date) (era : Int) :
    toDays ⟨date.year + 400 * era, date.month, date.day⟩ = toDays date + 146097 * era := by
  have hshift : (if date.month < 3 then date.year + 400 * era - 1 else date.year + 400 * era) =
      (if date.month < 3 then date.year - 1 else date.year) + 400 * era := by
    split <;> omega
  simp only [toDays, hshift, yearStart_add_era]
  omega

/-- A year that begins in March ends with the February that has its leap day. -/
theorem yearDays_pred (year : Int) : yearDays (year - 1) = monthStart 11 + monthLength year 2 := by
  unfold yearDays monthLength
  rw [Int.sub_add_cancel, if_pos rfl]
  split <;> rfl

/-- Every month but February ends where another one begins. -/
theorem monthStart_succ (year : Int) (hpos : 1 ≤ month) (hle : month ≤ 12) (hfebruary : month ≠ 2) :
    monthStart ((month + 10) % 12) = monthStart ((month + 9) % 12) + monthLength year month := by
  interval_cases month <;> first | rfl | exact absurd rfl hfebruary

theorem next_of_lt (h : day < monthLength year month) : next ⟨year, month, day⟩ = ⟨year, month, day + 1⟩ := if_pos h

theorem next_of_month (h : month < 12) : next ⟨year, month, monthLength year month⟩ = ⟨year, month + 1, 1⟩ := by
  rw [next, if_neg (Nat.lt_irrefl _), if_pos h]

theorem next_of_year (year : Int) : next ⟨year, 12, monthLength year 12⟩ = ⟨year + 1, 1, 1⟩ := by
  rw [next, if_neg (Nat.lt_irrefl _), if_neg (Nat.lt_irrefl _)]

/-- The days are counted one by one. -/
theorem toDays_next (h : date.Valid) : date.next.toDays = date.toDays + 1 := by
  obtain ⟨year, month, day⟩ := date
  obtain ⟨hpos, hle, hday, hlast⟩ : 1 ≤ month ∧ month ≤ 12 ∧ 1 ≤ day ∧ day ≤ monthLength year month :=
    ⟨h.month_pos, h.month_le, h.day_pos, h.day_le⟩
  rcases Nat.lt_or_eq_of_le hlast with hlt | rfl
  · rw [next_of_lt hlt]
    simp only [toDays]
    omega
  rcases Nat.lt_or_eq_of_le hle with hmonth | rfl
  · rw [next_of_month hmonth]
    by_cases hfebruary : month = 2
    · subst hfebruary
      have hyear := yearStart_succ (year - 1)
      rw [Int.sub_add_cancel, yearDays_pred] at hyear
      have hend : toDays ⟨year, 2, monthLength year 2⟩ =
          yearStart (year - 1) + monthStart 11 + (monthLength year 2 - 1) - epoch := by simp [toDays]
      have hmarch : toDays ⟨year, 2 + 1, 1⟩ = yearStart year - epoch := by simp [toDays, monthStart]
      omega
    · have hstart := monthStart_succ year hpos hle hfebruary
      have hyear : (if month + 1 < 3 then year - 1 else year) = if month < 3 then year - 1 else year := by
        split <;> split <;> omega
      simp only [toDays, hstart, hyear]
      omega
  · rw [next_of_year]
    have hstart : monthStart 10 = monthStart 9 + monthLength year 12 := monthStart_succ year hpos hle (by decide)
    have hend : toDays ⟨year, 12, monthLength year 12⟩ =
        yearStart year + monthStart 9 + (monthLength year 12 - 1) - epoch := by simp [toDays]
    have hjanuary : toDays ⟨year + 1, 1, 1⟩ = yearStart year + monthStart 10 - epoch := by simp [toDays]
    omega

end Counting

/-! ### The date of a day -/

/-- The date of a day of a year that begins in March. -/
def ofYearDay (year : Int) (day : Nat) : Date :=
  let month := (5 * day + 2) / 153
  let dayOfMonth := day - (153 * month + 2) / 5 + 1
  if month < 10 then ⟨year, month + 3, dayOfMonth⟩ else ⟨year + 1, month - 9, dayOfMonth⟩

section Inverse
variable {date : Date} {year : Int} {y r : Nat}

/-- A day of an era lies in the year that it was counted from. -/
theorem yearOfEra_startOfYear (hy : y < 400) (hr : r < yearDays y) : yearOfEra (startOfYear y + r) = y := by
  -- The year is the `b`-th of four, these are the `a`-th four of a century, and this is the `c`-th of the era.
  obtain ⟨c, a, b, hc, ha, hb, rfl⟩ : ∃ c a b, c ≤ 3 ∧ a ≤ 24 ∧ b ≤ 3 ∧ y = 100 * c + 4 * a + b :=
    ⟨y / 100, y % 100 / 4, y % 4, by omega, by omega, by omega, by omega⟩
  have hstart : startOfYear (100 * c + 4 * a + b) = 36524 * c + 1461 * a + 365 * b := by
    unfold startOfYear
    omega
  have hleap : r ≤ 364 ∨ r = 365 ∧ b = 3 ∧ (a ≠ 24 ∨ c = 3) := by
    unfold yearDays at hr
    by_cases h : IsLeap ((100 * c + 4 * a + b : Nat) + 1)
    · rw [if_pos h] at hr
      unfold IsLeap at h
      omega
    · rw [if_neg h] at hr
      omega
  clear hr hy
  rw [hstart, yearOfEra]
  by_cases hlast : 1461 * a + 365 * b + r = 36524
  · obtain ⟨rfl, rfl, rfl, rfl⟩ : c = 3 ∧ a = 24 ∧ b = 3 ∧ r = 365 := by omega
    rfl
  have hcenturies : (36524 * c + 1461 * a + 365 * b + r) / 36524 = c := by omega
  have heras : (36524 * c + 1461 * a + 365 * b + r) / 146096 = 0 := by omega
  -- A leap day may be taken off too early, but not before the year has had as many days.
  obtain ⟨x, hx, hr, hleaps⟩ : ∃ x, x ≤ r ∧ r ≤ 364 + x ∧
      (36524 * c + 1461 * a + 365 * b + r) / 1460 = 25 * c + a + x :=
    ⟨(24 * c + a + 365 * b + r) / 1460, by omega, by omega, by omega⟩
  rw [hleaps, hcenturies, heras]
  omega

/-- A day is looked up in the year that it was counted from. -/
theorem ofDays_yearStart (h : r < yearDays year) : ofDays (yearStart year + r - epoch) = ofYearDay year r := by
  obtain ⟨era, y, hy, rfl⟩ : ∃ (era : Int) (y : Nat), y < 400 ∧ year = y + 400 * era :=
    ⟨year / 400, (year % 400).toNat, by omega, by omega⟩
  have hr : r < yearDays y := by
    unfold yearDays at h ⊢
    rwa [show (y : Int) + 400 * era + 1 = y + 1 + 400 * era by omega, if_congr (isLeap_add_era _ _) rfl rfl] at h
  have hcount : yearStart (y + 400 * era) + r - epoch + epoch = (startOfYear y + r : Nat) + daysPerEra * era := by
    rw [yearStart_add_era]
    unfold yearStart startOfYear daysPerEra
    omega
  have hbound : startOfYear y + r < daysPerEra := by
    have hlength : yearDays y ≤ 366 := by
      unfold yearDays
      split <;> decide
    unfold startOfYear daysPerEra
    omega
  have hera : ((startOfYear y + r : Nat) + daysPerEra * era : Int) / daysPerEra = era := by
    unfold daysPerEra at hbound ⊢
    omega
  have hday : (((startOfYear y + r : Nat) + daysPerEra * era : Int) % daysPerEra).toNat = startOfYear y + r := by
    unfold daysPerEra at hbound ⊢
    omega
  simp only [ofDays, hcount, hera, hday, yearOfEra_startOfYear hy hr, Nat.add_sub_cancel_left]
  rfl

/-- A day of a month is looked up in that month. -/
theorem ofYearDay_monthStart (year : Int) {month day : Nat}
    (hday : month < 11 ∧ monthStart month + day < monthStart (month + 1) ∨ month = 11 ∧ day < 29) :
    ofYearDay year (monthStart month + day) =
      if month < 10 then ⟨year, month + 3, day + 1⟩ else ⟨year + 1, month - 9, day + 1⟩ := by
  have hlookup : (5 * (monthStart month + day) + 2) / 153 = month := by
    unfold monthStart at hday ⊢
    omega
  have hrest : monthStart month + day - (153 * month + 2) / 5 = day := Nat.add_sub_cancel_left (monthStart month) day
  simp only [ofYearDay, hlookup, hrest]

/-- The date of the number of a date is that date. -/
theorem ofDays_toDays (h : date.Valid) : ofDays date.toDays = date := by
  obtain ⟨year, month, day⟩ := date
  obtain ⟨hpos, hle, hday, hlast⟩ : 1 ≤ month ∧ month ≤ 12 ∧ 1 ≤ day ∧ day ≤ monthLength year month :=
    ⟨h.month_pos, h.month_le, h.day_pos, h.day_le⟩
  obtain ⟨k, rfl⟩ : ∃ k, day = k + 1 := ⟨day - 1, by omega⟩
  by_cases hfebruary : month = 2
  · subst hfebruary
    have hyear := yearDays_pred year
    have hshort : monthLength year 2 ≤ 29 := by
      unfold monthLength
      rw [if_pos rfl]
      split <;> decide
    have hnumber : toDays ⟨year, 2, k + 1⟩ = yearStart (year - 1) + (monthStart 11 + k : Nat) - epoch := by
      simp only [toDays, Nat.reduceLT, if_true, Nat.reduceAdd, Nat.reduceMod]
      omega
    rw [hnumber, ofDays_yearStart (by omega), ofYearDay_monthStart (year - 1) (.inr ⟨rfl, by omega⟩)]
    simp
  · have hstart := monthStart_succ year hpos hle hfebruary
    obtain ⟨m, hm, hnine, hten⟩ : ∃ m, m < 11 ∧ (month + 9) % 12 = m ∧ (month + 10) % 12 = m + 1 :=
      ⟨(month + 9) % 12, by omega, rfl, by omega⟩
    rw [hnine, hten] at hstart
    obtain ⟨first, hfirst⟩ : ∃ first, first = if month < 3 then year - 1 else year := ⟨_, rfl⟩
    have hnumber : toDays ⟨year, month, k + 1⟩ = yearStart first + (monthStart m + k : Nat) - epoch := by
      simp only [toDays, hnine, ← hfirst]
      omega
    have hlong : monthStart m + k < yearDays first := by
      have hmarch : monthStart (m + 1) ≤ 337 := by
        unfold monthStart
        omega
      have hyear : 365 ≤ yearDays first := by
        unfold yearDays
        split <;> decide
      omega
    rw [hnumber, ofDays_yearStart hlong, ofYearDay_monthStart first (.inl ⟨hm, by omega⟩), hfirst]
    by_cases hmonth : month < 3
    · obtain ⟨rfl, rfl⟩ : month = 1 ∧ m = 10 := by omega
      simp
    · obtain rfl : month = m + 3 := by omega
      rw [if_pos (by omega), if_neg hmonth]

/-- Every day has a date. -/
theorem exists_toDays (day : Int) : ∃ date : Date, date.Valid ∧ date.toDays = day := by
  have hforward (n : Nat) : ∃ date : Date, date.Valid ∧ date.toDays = n := by
    induction n with
    | zero => exact ⟨⟨1970, 1, 1⟩, ⟨by decide, by decide, by decide, by decide⟩, by decide⟩
    | succ n ih =>
      obtain ⟨date, hvalid, hdays⟩ := ih
      exact ⟨date.next, hvalid.next, by rw [toDays_next hvalid, hdays]; rfl⟩
  -- Days before 1970 are days after it, some eras earlier.
  obtain ⟨date, hvalid, hdays⟩ := hforward (day % 146097).toNat
  refine ⟨⟨date.year + 400 * (day / 146097), date.month, date.day⟩,
    ⟨hvalid.month_pos, hvalid.month_le, hvalid.day_pos, ?_⟩, ?_⟩
  · rw [monthLength_add_era]
    exact hvalid.day_le
  · rw [toDays_add_era, hdays]
    omega

theorem toDays_ofDays (day : Int) : (ofDays day).toDays = day := by
  obtain ⟨date, hvalid, rfl⟩ := exists_toDays day
  rw [ofDays_toDays hvalid]

theorem valid_ofDays (day : Int) : (ofDays day).Valid := by
  obtain ⟨date, hvalid, rfl⟩ := exists_toDays day
  rwa [ofDays_toDays hvalid]

theorem ofDays_succ (day : Int) : ofDays (day + 1) = (ofDays day).next := by
  obtain ⟨date, hvalid, rfl⟩ := exists_toDays day
  rw [← toDays_next hvalid, ofDays_toDays hvalid, ofDays_toDays hvalid.next]

theorem valid_leapDay_iff : Valid ⟨year, 2, 29⟩ ↔ IsLeap year := by
  have hlength : monthLength year 2 = if IsLeap year then 29 else 28 := if_pos rfl
  constructor
  · intro h
    by_contra hleap
    have hlast : 29 ≤ monthLength year 2 := h.day_le
    rw [hlength, if_neg hleap] at hlast
    omega
  · intro hleap
    rw [if_pos hleap] at hlength
    exact ⟨Nat.le_add_left 1 1, Nat.le_add_left 2 10, Nat.le_add_left 1 28, hlength.ge⟩

theorem ofDays_lt {day day' : Int} (h : day < day') : ofDays day < ofDays day' := by
  induction day', (h : day + 1 ≤ day') using Int.leInduction with
  | base =>
    rw [ofDays_succ]
    exact lt_next _
  | succ last _ ih =>
    rw [ofDays_succ]
    exact Date.lt_trans ih (lt_next _)

theorem ofDays_lt_iff {day day' : Int} : ofDays day < ofDays day' ↔ day < day' := by
  refine ⟨fun h => ?_, ofDays_lt⟩
  rcases Int.lt_trichotomy day day' with hlt | rfl | hgt
  · exact hlt
  · exact absurd h (Date.lt_irrefl _)
  · exact absurd (Date.lt_trans h (ofDays_lt hgt)) (Date.lt_irrefl _)

end Inverse

/-- The dates are those of the proleptic Gregorian calendar: that of day nought is 1 January 1970, every day has a
    date of the calendar and the next day the date that follows it, and 29 February is a date in leap years only. So
    the order of the days is that of their dates, and each date of the calendar is that of exactly one day. -/
theorem ofDays_gregorian :
    ofDays 0 = ⟨1970, 1, 1⟩ ∧
    (∀ day, (ofDays day).Valid ∧ ofDays (day + 1) = (ofDays day).next) ∧
    (∀ year, (∃ day, ofDays day = ⟨year, 2, 29⟩) ↔ year % 4 = 0 ∧ (year % 100 ≠ 0 ∨ year % 400 = 0)) ∧
    (∀ day day', day < day' ↔ ofDays day < ofDays day') ∧
    ∀ date : Date, date.Valid → ∃! day, ofDays day = date := by
  refine ⟨by decide, fun day => ⟨valid_ofDays day, ofDays_succ day⟩, fun year => ⟨?_, fun h => ?_⟩,
    fun _ _ => ofDays_lt_iff.symm, fun date h => ⟨date.toDays, ofDays_toDays h, ?_⟩⟩
  · rintro ⟨day, hday⟩
    exact valid_leapDay_iff.mp (hday ▸ valid_ofDays day)
  · exact ⟨_, ofDays_toDays (valid_leapDay_iff.mpr h)⟩
  · rintro day rfl
    exact (toDays_ofDays day).symm

end Date
end Taskboard
