import Mathlib.Algebra.Group.Defs
import BlobStore.Proofs.Text.Numeral
import BlobStore.Proofs.Time.Calendar
import BlobStore.Time.Reading
import Mathlib.Data.List.TakeWhile

/-!
# An instant is read as it has been written

Every part of the RFC 3339 text of an instant is read up to where the next part begins: numerals by
their widths, the fraction by the first character that is no digit.
-/

namespace BlobStore.Time

open Text

private theorem takeChar_cons (c : Char) (rest : List Char) :
    takeChar c (c :: rest) = some rest := if_pos rfl

/-! ## Numerals -/

private theorem takeDigits_append {width n : Nat} {digits : List Char}
    (hlength : digits.length = width) (hread : readNat? 10 digits = some n) (rest : List Char) :
    takeDigits width (digits ++ rest) = some (n, rest) := by
  subst hlength
  rw [takeDigits, List.take_left, List.drop_left, if_pos rfl, hread]
  rfl

private theorem takeDigits_zeroPadded {width n : Nat} (hw : 0 < width) (h : n < 10 ^ width)
    (rest : List Char) :
    takeDigits width ((zeroPadded width n).toList ++ rest) = some (n, rest) := by
  rw [zeroPadded, String.toList_ofList]
  exact takeDigits_append (length_padLeft_toDigits (by decide) hw h)
    (readNat?_padLeft (by decide) (by decide) width n) rest

private theorem takeDigits_two {n : Nat} (h : n < 100) (rest : List Char) :
    takeDigits 2 ((zeroPadded 2 n).toList ++ rest) = some (n, rest) :=
  takeDigits_zeroPadded (by decide) h rest

private theorem isDigit_head_zeroPadded {width n : Nat} {c : Char} {rest cs : List Char}
    (h : (zeroPadded width n).toList ++ rest = c :: cs) : c.isDigit = true := by
  rw [zeroPadded, String.toList_ofList] at h
  cases hdigits : padLeft '0' width (Nat.toDigits 10 n) with
  | nil => exact absurd hdigits (List.append_ne_nil_of_right_ne_nil _ Nat.toDigits_ne_nil)
  | cons d ds =>
    have hdigit := isDigit_of_mem_padLeft width n d (hdigits ▸ List.mem_cons_self)
    rw [hdigits] at h
    obtain rfl := (List.cons.inj h).1
    exact hdigit

/-! ## Years -/

/-- The year in RFC 3339. -/
def yearText (year : Int) : String :=
  if year < 0 then "-" ++ zeroPadded 6 year.natAbs else zeroPadded 4 year.toNat

private theorem takeYear_yearText {year : Int} (hlow : -10 ^ 6 < year) (hhigh : year < 10 ^ 4)
    (rest : List Char) : takeYear ((yearText year).toList ++ rest) = some (year, rest) := by
  unfold yearText
  split
  · rename_i hneg
    have hread : takeDigits 6 ((zeroPadded 6 year.natAbs).toList ++ rest) = some (year.natAbs, rest) :=
      takeDigits_zeroPadded (by decide) (by omega) rest
    have hpos : ¬year.natAbs = 0 := by omega
    have hback : -((year.natAbs : Nat) : Int) = year := by omega
    rw [String.toList_append]
    show takeYear ('-' :: ((zeroPadded 6 year.natAbs).toList ++ rest)) = some (year, rest)
    simp only [takeYear, hread, Option.bind_eq_bind, Option.bind_some, if_neg hpos, hback]
  · rename_i hpos
    have hread : takeDigits 4 ((zeroPadded 4 year.toNat).toList ++ rest) = some (year.toNat, rest) :=
      takeDigits_zeroPadded (by decide) (by omega) rest
    have hback : ((year.toNat : Nat) : Int) = year := by omega
    have hsign : ∀ c cs, (zeroPadded 4 year.toNat).toList ++ rest = c :: cs → c ≠ '-' ∧ c ≠ '+' := by
      intro c cs heq
      have hdigit := isDigit_head_zeroPadded heq
      constructor <;> (rintro rfl; cases hdigit)
    unfold takeYear
    split
    · rename_i heq
      exact absurd rfl (hsign _ _ heq).1
    · rename_i heq
      exact absurd rfl (hsign _ _ heq).2
    · rw [hread]
      show some (((year.toNat : Nat) : Int), rest) = _
      rw [hback]

/-! ## Fractions -/

private theorem exists_eq_append_replicate (c : Char) (text : List Char) :
    ∃ count, text = (text.reverse.dropWhile (· = c)).reverse ++ List.replicate count c := by
  have hsame : text.reverse.takeWhile (· = c) =
      List.replicate (text.reverse.takeWhile (· = c)).length c := by
    apply List.eq_replicate_of_mem
    intro d hd
    have hd := List.mem_takeWhile_imp hd
    exact of_decide_eq_true hd
  refine ⟨(text.reverse.takeWhile (· = c)).length, ?_⟩
  rw [← List.reverse_inj, List.reverse_append, List.reverse_reverse, List.reverse_replicate, ← hsame,
    List.takeWhile_append_dropWhile]

/-- The digits of a fraction count nanoseconds when the zeros taken off their end are put back. -/
theorem exists_digits_of_fraction {nanos : Nat} (hpos : nanos ≠ 0) (hlt : nanos < nanosPerSecond) :
    ∃ digits, (Instant.fraction nanos).toList = '.' :: digits ∧
      (∀ c ∈ digits, c.isDigit = true) ∧ (0 < digits.length ∧ digits.length ≤ 9) ∧
      valueOf 10 digits * 10 ^ (9 - digits.length) = nanos := by
  let written := padLeft '0' 9 (Nat.toDigits 10 nanos)
  let digits := (written.reverse.dropWhile (· = '0')).reverse
  have hlength : written.length = 9 := length_padLeft_toDigits (by decide) (by decide) hlt
  have hvalue : valueOf 10 written = nanos := valueOf_padLeft (by decide) (by decide) 9 nanos
  obtain ⟨count, hwritten⟩ : ∃ count, written = digits ++ List.replicate count '0' :=
    exists_eq_append_replicate '0' written
  have hsum : digits.length + count = 9 := by
    rw [← hlength, hwritten, List.length_append, List.length_replicate]
  rw [hwritten, valueOf_append, valueOf_zeros, List.length_replicate, Nat.add_zero] at hvalue
  refine ⟨digits, ?_, ?_, ⟨?_, by omega⟩, ?_⟩
  · rw [Instant.fraction, if_neg hpos]
    dsimp only
    rw [String.toList_append, String.toList_ofList, String.toList_ofList]
    rfl
  · intro c hc
    have hmem : c ∈ written := hwritten ▸ List.mem_append_left _ hc
    exact isDigit_of_mem_padLeft 9 nanos c hmem
  · by_contra hnone
    have hnil : digits = [] := List.eq_nil_of_length_eq_zero (Nat.eq_zero_of_not_pos hnone)
    rw [hnil, show valueOf 10 [] = 0 from rfl, Nat.zero_mul] at hvalue
    exact hpos hvalue.symm
  · rw [show 9 - digits.length = count by omega, hvalue]

private theorem takeFraction_fraction {nanos : Nat} (h : nanos < nanosPerSecond)
    (rest : List Char) :
    takeFraction ((Instant.fraction nanos).toList ++ 'Z' :: rest) = some (nanos, 'Z' :: rest) := by
  by_cases hzero : nanos = 0
  · subst hzero
    rfl
  · obtain ⟨digits, htext, hdigits, hlength, hvalue⟩ := exists_digits_of_fraction hzero h
    have htake : (digits ++ 'Z' :: rest).takeWhile Char.isDigit = digits := by
      rw [List.takeWhile_append_of_pos hdigits]
      exact List.append_nil digits
    rw [htext, List.cons_append]
    simp only [takeFraction, htake, hlength, and_self, if_true, hvalue, List.drop_left]

namespace Instant

variable (t : Instant)

/-! ## Dates and clocks -/

private theorem isValid_date : t.date.isValid = true := Date.isValid_ofDayNumber _

private theorem dayNumber_date :
    t.date.dayNumber = t.seconds / 86400 := Date.dayNumber_ofDayNumber _

theorem secondOfDay_lt : t.secondOfDay < 86400 := by
  unfold secondOfDay
  omega

private theorem secondsAt_date : secondsAt t.date (t.secondOfDay / 3600) (t.secondOfDay / 60 % 60)
    (t.secondOfDay % 60) = t.seconds := by
  have hnumber := t.dayNumber_date
  unfold secondsAt secondOfDay
  omega

private theorem year_bounds : -10 ^ 6 < t.date.year ∧ t.date.year < 10 ^ 4 := by
  have hearliest := t.earliest
  have hlatest := t.latest
  have hnumber := t.dayNumber_date
  obtain ⟨year, m, k, hm, hk, heq⟩ := Date.isValid_iff_exists.mp t.isValid_date
  have hlt := (Date.monthStart_add_lt hm hk).1
  have hlength := yearLength_le year
  rw [heq, Date.dayNumber_ofMonth hm] at hnumber
  rw [heq]
  unfold daysToMarch epochShift at hnumber
  by_cases hmonth : m < 10
  · rw [Date.ofMonth, if_pos hmonth]
    dsimp only
    omega
  · have hstart : 306 ≤ Date.monthStart m := by
      unfold Date.monthStart
      omega
    rw [Date.ofMonth, if_neg hmonth]
    dsimp only
    omega

private theorem takeClock_clock (rest : List Char) : takeClock (t.clock.toList ++ rest) =
    some ((t.secondOfDay / 3600, t.secondOfDay / 60 % 60, t.secondOfDay % 60), rest) := by
  have hlt := t.secondOfDay_lt
  have hhour : t.secondOfDay / 3600 < 24 := by omega
  have hminute : t.secondOfDay / 60 % 60 < 60 := Nat.mod_lt _ (by decide)
  have hsecond : t.secondOfDay % 60 < 60 := Nat.mod_lt _ (by decide)
  have htext : t.clock.toList ++ rest = (zeroPadded 2 (t.secondOfDay / 3600)).toList ++
      ':' :: ((zeroPadded 2 (t.secondOfDay / 60 % 60)).toList ++
        ':' :: ((zeroPadded 2 (t.secondOfDay % 60)).toList ++ rest)) := by
    have hcolon : ":".toList = [':'] := rfl
    simp only [clock, String.toList_append, List.append_assoc, hcolon, List.cons_append,
      List.nil_append]
  rw [htext]
  simp (disch := omega) only [takeClock, takeDigits_two, takeChar_cons, Option.bind_eq_bind,
    Option.bind_some, hhour, hminute, hsecond, and_self, if_true]

/-! ## The whole text -/

theorem toList_text : t.text.toList =
    (yearText t.date.year).toList ++ '-' :: ((zeroPadded 2 t.date.month).toList ++
      '-' :: ((zeroPadded 2 t.date.day).toList ++
        'T' :: (t.clock.toList ++ ((fraction t.nanos).toList ++ ['Z'])))) := by
  have heq : t.text = yearText t.date.year ++ ("-" ++ zeroPadded 2 t.date.month ++ "-" ++
    zeroPadded 2 t.date.day) ++ "T" ++ t.clock ++ fraction t.nanos ++ "Z" := rfl
  have hhyphen : "-".toList = ['-'] := rfl
  have htime : "T".toList = ['T'] := rfl
  have hzone : "Z".toList = ['Z'] := rfl
  rw [heq]
  simp only [String.toList_append, List.append_assoc, hhyphen, htime, hzone, List.cons_append,
    List.nil_append]

/-- The text of an instant is read as the instant. -/
theorem read?_text : read? t.text.toList = some t := by
  have hvalid := t.isValid_date
  have hdate : (⟨t.date.year, t.date.month, t.date.day⟩ : Date) = t.date := rfl
  obtain ⟨⟨-, hmonth⟩, -, hday⟩ := Date.isValid_iff.mp hvalid
  have hlength := daysInMonth_le t.date.year t.date.month
  obtain ⟨hlow, hhigh⟩ := t.year_bounds
  rw [toList_text]
  unfold read?
  rw [takeYear_yearText hlow hhigh]
  simp only [Option.bind_eq_bind, Option.bind_some, takeChar_cons,
    takeDigits_two (show t.date.month < 100 by omega),
    takeDigits_two (show t.date.day < 100 by omega), hdate, hvalid, takeClock_clock,
    takeFraction_fraction t.nanos_lt, secondsAt_date, List.isEmpty_nil, Bool.not_true,
    Bool.false_eq_true, if_false, ofSeconds?_seconds_nanos]

end Instant

end BlobStore.Time
