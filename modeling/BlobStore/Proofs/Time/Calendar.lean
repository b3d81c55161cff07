import BlobStore.Time.Calendar
import Mathlib.Tactic.IntervalCases

/-!
# The calendar counts days

The number of a date and the date of a number lead back to each other, and the dates of numbers that
follow one another are days that follow one another, by the lengths of the months. For this a day is
found in its year, which begins with March, and the year in its four hundred years, an era.
-/

namespace BlobStore.Time

theorem daysInMonth_le (year : Int) (month : Nat) : daysInMonth year month ≤ 31 := by
  unfold daysInMonth
  split_ifs <;> decide

private theorem isLeapYear_iff {year : Int} :
    isLeapYear year = true ↔ year % 4 = 0 ∧ (year % 100 ≠ 0 ∨ year % 400 = 0) := by
  unfold isLeapYear
  exact decide_eq_true_iff

/-! ## Years that begin with March -/

/-- Days from 0000-03-01 to the first of March of a year. -/
def daysToMarch (year : Int) : Int := 365 * year + year / 4 - year / 100 + year / 400

/-- The length of the year that begins with March; its last month is in the year after. -/
def yearLength (year : Int) : Nat := if isLeapYear (year + 1) then 366 else 365

theorem yearLength_le (year : Int) : yearLength year ≤ 366 := by
  unfold yearLength
  split <;> decide

private theorem le_yearLength (year : Int) : 365 ≤ yearLength year := by
  unfold yearLength
  split <;> decide

private theorem daysToMarch_succ (year : Int) :
    daysToMarch (year + 1) = daysToMarch year + yearLength year := by
  unfold daysToMarch yearLength
  by_cases h : isLeapYear (year + 1) = true
  · rw [if_pos h]
    rw [isLeapYear_iff] at h
    omega
  · rw [if_neg h]
    rw [isLeapYear_iff] at h
    omega

/-! ## Eras -/

/-- A day of an era by full centuries, spans of four years, years and days. The last year of a span has
a day more, but in the last span of a century only if the century is the last. -/
structure InEra (c a b r : Nat) : Prop where
  century : c < 4
  span : a < 25
  year : b < 4
  day : r < 365 ∨ r = 365 ∧ b = 3 ∧ (a < 24 ∨ c = 3)

private theorem exists_inEra {e : Nat} (h : e < 146097) :
    ∃ c a b r, InEra c a b r ∧ e = 36524 * c + 1461 * a + 365 * b + r := by
  obtain ⟨c, w, hc, he, hw⟩ : ∃ c w, c < 4 ∧ e = 36524 * c + w ∧ (w < 36524 ∨ w = 36524 ∧ c = 3) :=
    ⟨min 3 (e / 36524), e - 36524 * min 3 (e / 36524), by omega, by omega, by omega⟩
  obtain ⟨b, r, hb, hx, hr⟩ : ∃ b r, b < 4 ∧ w % 1461 = 365 * b + r ∧ (r < 365 ∨ r = 365 ∧ b = 3) :=
    ⟨min 3 (w % 1461 / 365), w % 1461 - 365 * min 3 (w % 1461 / 365), by omega, by omega, by omega⟩
  exact ⟨c, w / 1461, b, r, ⟨hc, by omega, hb, by omega⟩, by omega⟩

private theorem exists_inEra_of_lt {year : Int} {r : Nat} (h : r < yearLength year) :
    ∃ (era : Int) (c a b : Nat), InEra c a b r ∧ year = era * 400 + (100 * c + 4 * a + b : Nat) := by
  refine ⟨year / 400, (year % 400 / 100).toNat, (year % 100 / 4).toNat, (year % 4).toNat,
    ⟨by omega, by omega, by omega, ?_⟩, by omega⟩
  unfold yearLength at h
  split at h
  · rename_i hleap
    rw [isLeapYear_iff] at hleap
    omega
  · exact .inl h

namespace InEra

variable {c a b r : Nat}

private theorem lt_yearLength (h : InEra c a b r) (era : Int) :
    r < yearLength (era * 400 + (100 * c + 4 * a + b : Nat)) := by
  obtain ⟨hc, ha, hb, hr⟩ := h
  unfold yearLength
  split
  · omega
  · rename_i hleap
    rw [isLeapYear_iff] at hleap
    omega

private theorem daysToMarch_eq (h : InEra c a b r) (era : Int) :
    daysToMarch (era * 400 + (100 * c + 4 * a + b : Nat)) + r =
      era * 146097 + (36524 * c + 1461 * a + 365 * b + r : Nat) := by
  obtain ⟨hc, ha, hb, -⟩ := h
  unfold daysToMarch
  omega

/-- Without its leap days an era has years of the same length. -/
theorem year_eq (h : InEra c a b r) :
    let e := 36524 * c + 1461 * a + 365 * b + r
    (e - e / 1460 + e / 36524 - e / 146096) / 365 = 100 * c + 4 * a + b := by
  obtain ⟨hc, ha, hb, hr⟩ := h
  intro e
  -- The leap days before this one, which may be taken to have passed when its year is almost over.
  have hspan : e / 1460 = 25 * c + a ∨ e / 1460 = 25 * c + a + 1 ∧ 269 ≤ r := by omega
  have hcentury : e / 36524 = c ∧ e / 146096 = 0 ∨ c = 3 ∧ e = 146096 := by omega
  rcases hcentury with ⟨hdays, hera⟩ | ⟨hlast, hday⟩
  · rw [hdays, hera]
    omega
  · rw [hday]
    omega

end InEra

private theorem exists_eq_daysToMarch (n : Int) :
    ∃ year day, day < yearLength year ∧ n = daysToMarch year + day - epochShift := by
  have hlt : ((n + epochShift) % 146097).toNat < 146097 := by omega
  obtain ⟨c, a, b, r, hera, heq⟩ := exists_inEra hlt
  refine ⟨(n + epochShift) / 146097 * 400 + (100 * c + 4 * a + b : Nat), r, hera.lt_yearLength _, ?_⟩
  rw [hera.daysToMarch_eq]
  omega

namespace Date

/-- The date that is so many days after the first of March. -/
def ofMarch (year : Int) (day : Nat) : Date :=
  let m := (5 * day + 2) / 153
  let month := if m < 10 then m + 3 else m - 9
  { year := year + (if month ≤ 2 then 1 else 0), month, day := day - (153 * m + 2) / 5 + 1 }

private theorem ofDayNumber_eq {year : Int} {day : Nat} (h : day < yearLength year) :
    ofDayNumber (daysToMarch year + day - epochShift) = ofMarch year day := by
  obtain ⟨era, c, a, b, hera, rfl⟩ := exists_inEra_of_lt h
  have hyear := hera.year_eq
  obtain ⟨hspans, hcenturies, hday, hlt⟩ :
      (100 * c + 4 * a + b) / 4 = 25 * c + a ∧ (100 * c + 4 * a + b) / 100 = c ∧
      36524 * c + 1461 * a + 365 * b + day -
        (365 * (100 * c + 4 * a + b) + (25 * c + a) - c) = day ∧
      36524 * c + 1461 * a + 365 * b + day < 146097 := by
    obtain ⟨hc, ha, hb, hr⟩ := hera
    omega
  rw [hera.daysToMarch_eq]
  unfold ofDayNumber
  dsimp only at hyear ⊢
  generalize 36524 * c + 1461 * a + 365 * b + day = e at hyear hday hlt ⊢
  have hquotient : (era * 146097 + (e : Int)) / 146097 = era := by omega
  have hremainder : ((era * 146097 + (e : Int)) % 146097).toNat = e := by omega
  rw [Int.sub_add_cancel, hquotient, hremainder, hyear, hspans, hcenturies, hday,
    Int.add_comm _ (era * 400)]
  rfl

/-! ## Months of a year that begins with March -/

/-- Days from the first of March to the first of a later month. -/
def monthStart (m : Nat) : Nat := (153 * m + 2) / 5

def monthLength (year : Int) (m : Nat) : Nat :=
  if m < 11 then monthStart (m + 1) - monthStart m else yearLength year - monthStart 11

/-- The date by the full months since March and the full days of the month. -/
def ofMonth (year : Int) (m k : Nat) : Date :=
  if m < 10 then ⟨year, m + 3, k + 1⟩ else ⟨year + 1, m - 9, k + 1⟩

/-- The year that has begun with the last March. -/
def marchYear (d : Date) : Int := if d.month ≤ 2 then d.year - 1 else d.year

def monthFromMarch (d : Date) : Nat := if d.month ≤ 2 then d.month + 9 else d.month - 3

private theorem dayNumber_eq (d : Date) : d.dayNumber =
    daysToMarch d.marchYear + (monthStart d.monthFromMarch + d.day - 1 : Nat) - epochShift := by
  show d.marchYear / 400 * 146097 +
    ((d.marchYear % 400).toNat * 365 + (d.marchYear % 400).toNat / 4 -
      (d.marchYear % 400).toNat / 100 + (monthStart d.monthFromMarch + d.day - 1) : Nat) -
        epochShift = _
  unfold daysToMarch
  omega

section Month

variable {year : Int} {m k : Nat}

private theorem monthLength_pos (year : Int) (m : Nat) : 0 < monthLength year m := by
  have hle := le_yearLength year
  unfold monthLength monthStart
  split <;> omega

theorem monthStart_add_lt (hm : m < 12) (hk : k < monthLength year m) :
    monthStart m + k < yearLength year ∧ (5 * (monthStart m + k) + 2) / 153 = m := by
  have hle := le_yearLength year
  have hge := yearLength_le year
  unfold monthLength at hk
  unfold monthStart at hk ⊢
  split at hk <;> omega

private theorem exists_month {day : Nat} (h : day < yearLength year) :
    ∃ m k, m < 12 ∧ k < monthLength year m ∧ day = monthStart m + k := by
  have hge := yearLength_le year
  refine ⟨(5 * day + 2) / 153, day - monthStart ((5 * day + 2) / 153), by omega, ?_, ?_⟩
  · unfold monthLength monthStart
    split <;> omega
  · unfold monthStart
    omega

private theorem ofMarch_eq (hm : m < 12) (hk : k < monthLength year m) :
    ofMarch year (monthStart m + k) = ofMonth year m k := by
  have hday : monthStart m + k - (153 * m + 2) / 5 = k := by
    unfold monthStart
    omega
  unfold ofMarch ofMonth
  dsimp only
  rw [(monthStart_add_lt hm hk).2, hday]
  by_cases hlt : m < 10
  · simp [hlt]
  · have hle : m - 9 ≤ 2 := by omega
    simp [hlt, hle]

private theorem day_ofMonth (year : Int) (m k : Nat) : (ofMonth year m k).day = k + 1 := by
  unfold ofMonth
  split <;> rfl

private theorem daysInMonth_ofMonth (hm : m < 12) :
    daysInMonth (ofMonth year m k).year (ofMonth year m k).month = monthLength year m := by
  by_cases hlast : m < 11
  · interval_cases m <;> rfl
  · obtain rfl : m = 11 := by omega
    show (if isLeapYear (year + 1) = true then 29 else 28) = yearLength year - monthStart 11
    unfold yearLength
    split <;> rfl

theorem dayNumber_ofMonth (hm : m < 12) : (ofMonth year m k).dayNumber =
    daysToMarch year + (monthStart m + k : Nat) - epochShift := by
  rw [dayNumber_eq]
  unfold ofMonth marchYear monthFromMarch
  by_cases hlt : m < 10
  · simp [hlt]
  · have hle : m - 9 ≤ 2 := by omega
    have hback : m - 9 + 9 = m := by omega
    simp [hlt, hle, hback]

end Month

/-! ## Dates and numbers -/

section

variable {d : Date}

theorem isValid_iff : d.isValid = true ↔
    (1 ≤ d.month ∧ d.month ≤ 12) ∧ 1 ≤ d.day ∧ d.day ≤ daysInMonth d.year d.month := by
  simp [isValid, and_assoc]

private theorem eq_ofMonth (h : d.isValid = true) :
    d = ofMonth d.marchYear d.monthFromMarch (d.day - 1) := by
  obtain ⟨⟨hlow, hhigh⟩, hday, -⟩ := isValid_iff.mp h
  obtain ⟨year, month, day⟩ := d
  unfold ofMonth marchYear monthFromMarch
  dsimp only at hlow hhigh hday ⊢
  have hback : day - 1 + 1 = day := Nat.sub_add_cancel hday
  by_cases hmonth : month ≤ 2
  · have hlate : ¬month + 9 < 10 := by omega
    simp [hmonth, hlate, hback]
  · have hearly : month - 3 < 10 := by omega
    have hmonth' : month - 3 + 3 = month := by omega
    simp [hmonth, hearly, hback, hmonth']

theorem isValid_iff_exists :
    d.isValid = true ↔ ∃ year m k, m < 12 ∧ k < monthLength year m ∧ d = ofMonth year m k := by
  constructor
  · intro h
    obtain ⟨⟨hlow, hhigh⟩, hday, hlast⟩ := isValid_iff.mp h
    have hm : d.monthFromMarch < 12 := by
      unfold monthFromMarch
      split <;> omega
    have hlength : daysInMonth d.year d.month = monthLength d.marchYear d.monthFromMarch := by
      rw [← daysInMonth_ofMonth hm, ← eq_ofMonth h]
    exact ⟨d.marchYear, d.monthFromMarch, d.day - 1, hm, by omega, eq_ofMonth h⟩
  · rintro ⟨year, m, k, hm, hk, rfl⟩
    rw [isValid_iff, daysInMonth_ofMonth hm, day_ofMonth]
    unfold ofMonth
    split <;> (dsimp only; omega)

private theorem ofDayNumber_dayNumber (h : d.isValid = true) : ofDayNumber d.dayNumber = d := by
  obtain ⟨year, m, k, hm, hk, rfl⟩ := isValid_iff_exists.mp h
  rw [dayNumber_ofMonth hm, ofDayNumber_eq (monthStart_add_lt hm hk).1, ofMarch_eq hm hk]

end

private theorem exists_ofDayNumber_eq (n : Int) : ∃ year m k, m < 12 ∧ k < monthLength year m ∧
    ofDayNumber n = ofMonth year m k ∧ n = daysToMarch year + (monthStart m + k : Nat) - epochShift := by
  obtain ⟨year, day, hday, rfl⟩ := exists_eq_daysToMarch n
  obtain ⟨m, k, hm, hk, rfl⟩ := exists_month hday
  exact ⟨year, m, k, hm, hk, (ofDayNumber_eq hday).trans (ofMarch_eq hm hk), rfl⟩

theorem isValid_ofDayNumber (n : Int) : (ofDayNumber n).isValid = true := by
  obtain ⟨year, m, k, hm, hk, heq, -⟩ := exists_ofDayNumber_eq n
  exact isValid_iff_exists.mpr ⟨year, m, k, hm, hk, heq⟩

theorem dayNumber_ofDayNumber (n : Int) : (ofDayNumber n).dayNumber = n := by
  obtain ⟨year, m, k, hm, -, heq, hn⟩ := exists_ofDayNumber_eq n
  rw [heq, dayNumber_ofMonth hm, ← hn]

/-! ## From one day to the next -/

/-- The day after. -/
def next (d : Date) : Date :=
  if d.day < daysInMonth d.year d.month then { d with day := d.day + 1 }
  else if d.month < 12 then { d with month := d.month + 1, day := 1 }
  else { year := d.year + 1, month := 1, day := 1 }

section

variable {year : Int} {m k : Nat}

private theorem next_ofMonth_of_lt (hm : m < 12) (hk : k + 1 < monthLength year m) :
    (ofMonth year m k).next = ofMonth year m (k + 1) := by
  rw [next, daysInMonth_ofMonth hm, day_ofMonth, if_pos hk]
  unfold ofMonth
  split <;> rfl

private theorem next_ofMonth_of_eq (hm : m < 12) (hk : k + 1 = monthLength year m) :
    (ofMonth year m k).next = if m < 11 then ofMonth year (m + 1) 0 else ofMonth (year + 1) 0 0 := by
  rw [next, daysInMonth_ofMonth hm, day_ofMonth, hk, if_neg (Nat.lt_irrefl _)]
  interval_cases m <;> simp [ofMonth]

end

/-- The day after a date is a date, and its number is the next. -/
theorem next_valid {d : Date} (h : d.isValid = true) :
    d.next.isValid = true ∧ d.next.dayNumber = d.dayNumber + 1 := by
  obtain ⟨year, m, k, hm, hk, rfl⟩ := isValid_iff_exists.mp h
  rw [isValid_iff_exists, dayNumber_ofMonth hm]
  by_cases hlast : k + 1 < monthLength year m
  · rw [next_ofMonth_of_lt hm hlast, dayNumber_ofMonth hm]
    exact ⟨⟨year, m, k + 1, hm, hlast, rfl⟩, by omega⟩
  · have heq : k + 1 = monthLength year m := by omega
    rw [next_ofMonth_of_eq hm heq]
    unfold monthLength at heq
    by_cases hlt : m < 11
    · rw [if_pos hlt] at heq ⊢
      have hm' : m + 1 < 12 := Nat.succ_lt_succ hlt
      rw [dayNumber_ofMonth hm']
      exact ⟨⟨year, m + 1, 0, hm', monthLength_pos _ _, rfl⟩, by omega⟩
    · -- The last day of February is the last of its year.
      obtain rfl : m = 11 := by omega
      have hle := le_yearLength year
      have hstart : monthStart 11 = 337 := rfl
      have hzero : monthStart 0 = 0 := rfl
      rw [if_neg hlt] at heq ⊢
      rw [dayNumber_ofMonth (Nat.succ_pos 11), daysToMarch_succ]
      exact ⟨⟨year + 1, 0, 0, Nat.succ_pos 11, monthLength_pos _ _, rfl⟩, by omega⟩

private theorem ofDayNumber_succ (n : Int) : ofDayNumber (n + 1) = (ofDayNumber n).next := by
  obtain ⟨hnext, hsucc⟩ := next_valid (isValid_ofDayNumber n)
  rw [← ofDayNumber_dayNumber hnext, hsucc, dayNumber_ofDayNumber]

/-- The date is that of the day which is so many days after 1970-01-01, or before it. Days are counted
one by one, by the lengths of the months. -/
inductive IsDay : Int → Date → Prop
  | epoch : IsDay 0 ⟨1970, 1, 1⟩
  | after {n : Int} {d : Date} : IsDay n d → IsDay (n + 1) d.next
  | before {n : Int} {d : Date} : d.isValid = true → IsDay (n + 1) d.next → IsDay n d

theorem isDay_ofDayNumber (n : Int) : IsDay n (ofDayNumber n) := by
  induction n using Int.induction_on with
  | zero => exact .epoch
  | succ n ih =>
    rw [ofDayNumber_succ]
    exact ih.after
  | pred n ih =>
    refine .before (isValid_ofDayNumber _) ?_
    rw [← ofDayNumber_succ, Int.sub_add_cancel]
    exact ih

end Date

end BlobStore.Time
