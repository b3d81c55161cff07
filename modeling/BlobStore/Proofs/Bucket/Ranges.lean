import BlobStore.Bucket
import BlobStore.Memory
import BlobStore.Proofs.Action
import BlobStore.Proofs.Text.Cut
import BlobStore.Proofs.Text.Numeral

/-!
# Reading a range of an object

The range that a reader asks for is written into a header, read by the memory, and reported back in
another. What comes of it are the bytes asked for, as far as the object has them, and the size of the
whole object.
-/

namespace BlobStore

namespace Text

private theorem trimBy_eq_self {drop : Char → Bool} {text : List Char}
    (h : ∀ c ∈ text, drop c = false) :
    trimBy drop text = text := by
  have hkeep : ∀ l : List Char, (∀ c ∈ l, drop c = false) → l.dropWhile drop = l := by
    intro l hl
    cases l with
    | nil => rfl
    | cons c l => exact List.dropWhile_cons_of_neg (by simp [hl c])
  have hreverse : ∀ c ∈ text.reverse, drop c = false := fun c hc => h c (List.mem_reverse.mp hc)
  rw [trimBy, hkeep text h, hkeep _ hreverse, List.reverse_reverse]

private theorem isBlank_of_isDigit {c : Char} (h : c.isDigit = true) : isBlank c = false := by
  simp only [Char.isDigit, Bool.and_eq_true, decide_eq_true_eq] at h
  have hlow : 48 ≤ c.toNat := UInt32.le_iff_toNat_le.mp h.1
  have hhigh : c.toNat ≤ 57 := UInt32.le_iff_toNat_le.mp h.2
  simp only [isBlank, blankRanges, List.any_cons, List.any_nil, Bool.or_false, Bool.or_eq_false_iff,
    Bool.and_eq_false_iff, decide_eq_false_iff_not]
  omega

private theorem trimBlank_toString (n : Nat) :
    trimBlank (toString n).toList = (toString n).toList := by
  apply trimBy_eq_self
  intro c hc
  rw [toList_toString] at hc
  exact isBlank_of_isDigit (Nat.isDigit_of_mem_toDigits (by decide) (by decide) hc)

end Text

open Text (maxWord)

/-- The last byte that a reader of `length` bytes at `offset` names, if it names one. -/
def lastNamed (offset : Nat) : Option Nat → Option Nat
  | none => none
  | some 0 => some offset
  | some (n + 1) => some (min (offset + n) maxWord)

/-- A range as it stands in a header. -/
def rangeText (first : Nat) (last : Option Nat) : String :=
  "bytes=" ++ toString first ++ "-" ++ last.elim "" toString

private theorem rangeHeader_eq {offset : Nat} {length : Option Nat}
    (h : ¬(offset = 0 ∧ length = none)) :
    rangeHeader offset length = some (rangeText offset (lastNamed offset length)) := by
  match length with
  | none =>
    have hoffset : offset ≠ 0 := fun h0 => h ⟨h0, rfl⟩
    rw [rangeHeader, if_neg hoffset, rangeText, lastNamed, Option.elim_none, String.append_empty]
    rfl
  | some 0 => rfl
  | some (n + 1) => rfl

private theorem lastNamed_le {offset : Nat} (h : offset ≤ maxWord) (length : Option Nat) :
    ∀ n, lastNamed offset length = some n → n ≤ maxWord := by
  intro n hn
  match length with
  | none => cases hn
  | some 0 =>
    cases hn
    exact h
  | some (n + 1) =>
    cases hn
    exact Nat.min_le_right _ _

namespace Memory

private theorem readRange?_rangeText {first : Nat} {last : Option Nat} (hfirst : first ≤ maxWord)
    (hlast : ∀ n, last = some n → n ≤ maxWord) (size : Nat) :
    readRange? (rangeText first last) size =
      if size ≤ first then none else some (first, last.elim (size - 1) (min · (size - 1))) := by
  have htext : (rangeText first last).toList =
      "bytes=".toList ++ ((toString first).toList ++ '-' :: (last.elim "" toString).toList) := by
    simp only [rangeText, String.toList_append, List.append_assoc]
    rfl
  have hdash : '-' ∉ (toString first).toList := Text.not_mem_toString (by decide) first
  rw [readRange?, htext, Text.isPrefixOf?_append]
  simp only [Option.bind_eq_bind, Option.bind_some, Text.cutAt_append hdash,
    Text.readBounded?_toString hfirst]
  by_cases hsize : size ≤ first
  · simp [hsize]
  · cases last with
    | none => simp [hsize]
    | some n =>
      have hne : (toString n).toList.isEmpty = false := by
        rw [Text.toList_toString, List.isEmpty_eq_false_iff]
        exact Nat.toDigits_ne_nil
      simp only [hsize, if_false, Option.elim_some, hne, Bool.false_eq_true,
        Text.readBounded?_toString (hlast n rfl), Option.bind_some]

end Memory

private theorem wholeSize_contentRange {first last size : Nat} (hsize : size ≤ maxWord)
    (length : Option Int) : wholeSize (some s!"bytes {first}-{last}/{size}") length = size := by
  have htext : (s!"bytes {first}-{last}/{size}").toList =
      ("bytes ".toList ++ (toString first).toList ++ '-' :: (toString last).toList) ++
        '/' :: (toString size).toList := by
    simp only [String.toList_append, List.append_assoc]
    rfl
  have hslash : '/' ∉ "bytes ".toList ++ (toString first).toList ++ '-' :: (toString last).toList := by
    have hdigits : ∀ n : Nat, '/' ∉ (toString n).toList := Text.not_mem_toString (by decide)
    simp only [List.mem_append, List.mem_cons, not_or]
    exact ⟨⟨by decide, hdigits first⟩, by decide, hdigits last⟩
  rw [wholeSize, Option.bind_eq_bind, Option.bind_some, htext]
  simp only [Text.cutAt_append hslash, Option.bind_eq_bind, Option.bind_some,
    Text.trimBlank_toString, Text.readBounded?_toString hsize, Option.getD_some]

namespace Bucket

variable {σ : Type} {b : Bucket σ} {s t : σ} {key : String}

/-- The request of a reader that nobody adjusts. -/
def rangeQuery (b : Bucket σ) (key : String) (offset : Nat) (length : Option Nat) : GetQuery :=
  { GetQuery.whole (b.address key) with range := rangeHeader offset length }

theorem readRange_of_ok {offset : Nat} {length : Option Nat} {answer : Download}
    (h : b.serve (.get (b.rangeQuery key offset length)) s = (.ok answer, t))
    (hwhole : answer.isWhole = true) :
    b.readRange key offset length pure s =
      (.ok { size := wholeSize answer.contentRange answer.contentLength
             contentType := answer.contentType
             modified := answer.lastModified.bind Moment.instant?
             contentRange := answer.contentRange
             data := if length = some 0 then ByteArray.empty else answer.body }, t) := by
  have hcond : ¬((!answer.isWhole) = true ∧ length ≠ some 0) := by simp [hwhole]
  unfold readRange
  refine (bind_of_ok (t := s) (a := b.rangeQuery key offset length) rfl _).trans ?_
  refine (bind_of_ok (request_of_granted h) _).trans ?_
  dsimp only
  rw [if_neg hcond]
  rfl

theorem readRange_of_error {offset : Nat} {length : Option Nat} {why : Fault}
    (h : b.serve (.get (b.rangeQuery key offset length)) s = (.error why, t)) :
    b.readRange key offset length pure s = (.error (.ofFault why), t) := by
  unfold readRange
  refine (bind_of_ok (t := s) (a := b.rangeQuery key offset length) rfl _).trans ?_
  exact bind_of_error (request_of_refused h) _

/-- Where a read of `length` bytes at `offset` ends in an object of `size` bytes. -/
def sliceEnd (size offset : Nat) (length : Option Nat) : Nat :=
  length.elim size fun n => min size (offset + n)

variable {m : Memory} {o : StoredObject} {offset : Nat} {length : Option Nat}

theorem get_whole (ho : m.objects.get? key = some o) :
    ∃ answer, m.get key (rangeHeader 0 none) = .ok answer ∧ answer.isWhole = true ∧
      answer.body = o.data ∧ wholeSize answer.contentRange answer.contentLength = o.data.size := by
  have hheader : rangeHeader 0 none = none := rfl
  rw [hheader, Memory.get, ho]
  exact ⟨_, rfl, rfl, rfl, rfl⟩

private theorem get_outside (ho : m.objects.get? key = some o)
    (hasked : ¬(offset = 0 ∧ length = none)) (hoffset : offset ≤ maxWord)
    (houtside : o.data.size ≤ offset) :
    m.get key (rangeHeader offset length) = .error Memory.invalidRange := by
  rw [Memory.get, ho, rangeHeader_eq hasked]
  dsimp only
  rw [Memory.readRange?_rangeText hoffset (lastNamed_le hoffset length), if_pos houtside]

private theorem elim_lastNamed {size : Nat} (hsome : length ≠ some 0) (hinside : offset < size)
    (hsize : size ≤ maxWord) :
    (lastNamed offset length).elim (size - 1) (min · (size - 1)) + 1 = sliceEnd size offset length := by
  match length with
  | none =>
    simp only [lastNamed, sliceEnd, Option.elim_none]
    omega
  | some 0 => exact absurd rfl hsome
  | some (n + 1) =>
    simp only [lastNamed, sliceEnd, Option.elim_some]
    omega

/-- Of a range that starts inside of an object the memory gives what there is. The range of no bytes
gets one byte, because a range cannot be empty. -/
theorem get_inside (ho : m.objects.get? key = some o) (hasked : ¬(offset = 0 ∧ length = none))
    (hsize : o.data.size ≤ maxWord) (hinside : offset < o.data.size) :
    ∃ answer, m.get key (rangeHeader offset length) = .ok answer ∧ answer.isWhole = true ∧
      wholeSize answer.contentRange answer.contentLength = o.data.size ∧
      (length ≠ some 0 →
        answer.body = o.data.extract offset (sliceEnd o.data.size offset length)) := by
  have hoffset : offset ≤ maxWord := by omega
  have hread := Memory.readRange?_rangeText hoffset (lastNamed_le hoffset length) o.data.size
  rw [if_neg (by omega)] at hread
  rw [Memory.get, ho, rangeHeader_eq hasked]
  dsimp only
  rw [hread]
  refine ⟨_, rfl, rfl, wholeSize_contentRange hsize _, fun hsome => ?_⟩
  rw [elim_lastNamed hsome hinside hsize]

private theorem readRange?_within {size first last : Nat} {header : String}
    (hoffset : offset ≤ maxWord) (hheader : rangeHeader offset length = some header)
    (hread : Memory.readRange? header size = some (first, last)) : first ≤ last ∧ last < size := by
  have hasked : ¬(offset = 0 ∧ length = none) := by
    rintro ⟨rfl, rfl⟩
    cases hheader
  rw [rangeHeader_eq hasked] at hheader
  obtain rfl := Option.some.inj hheader
  rw [Memory.readRange?_rangeText hoffset (lastNamed_le hoffset length)] at hread
  split at hread
  · cases hread
  · obtain ⟨rfl, rfl⟩ := Prod.mk.inj (Option.some.inj hread)
    match length with
    | none =>
      simp only [lastNamed, Option.elim_none]
      omega
    | some 0 =>
      simp only [lastNamed, Option.elim_some]
      omega
    | some (n + 1) =>
      simp only [lastNamed, Option.elim_some]
      omega

private theorem readRange_absent (name : String) (hnone : m.objects.get? key = none) :
    (Bucket.mk name Memory.serve).readRange key offset length pure m =
      (.error (.ofFault Memory.noSuchKey), m) := by
  have hget : m.get key (rangeHeader offset length) = .error Memory.noSuchKey := by
    rw [Memory.get, hnone]
  exact readRange_of_error (congrArg (·, m) hget)

private theorem readRange_whole (name : String) (ho : m.objects.get? key = some o) :
    ∃ r, (Bucket.mk name Memory.serve).readRange key 0 none pure m = (.ok r, m) ∧
      r.data = o.data ∧ r.size = o.data.size := by
  obtain ⟨answer, hget, hwhole, hbody, hsize⟩ := get_whole ho
  refine ⟨_, readRange_of_ok (congrArg (·, m) hget) hwhole, ?_, hsize⟩
  rw [if_neg (by simp), hbody]

private theorem readRange_outside (name : String) (ho : m.objects.get? key = some o)
    (hasked : ¬(offset = 0 ∧ length = none)) (hoffset : offset ≤ maxWord)
    (houtside : o.data.size ≤ offset) :
    (Bucket.mk name Memory.serve).readRange key offset length pure m =
      (.error (.ofFault Memory.invalidRange), m) :=
  readRange_of_error (congrArg (·, m) (get_outside ho hasked hoffset houtside))

private theorem readRange_inside (name : String) (ho : m.objects.get? key = some o)
    (hsize : o.data.size ≤ maxWord) (hinside : offset < o.data.size) :
    ∃ r, (Bucket.mk name Memory.serve).readRange key offset length pure m = (.ok r, m) ∧
      r.size = o.data.size ∧
      r.data = o.data.extract offset (sliceEnd o.data.size offset length) := by
  by_cases hasked : offset = 0 ∧ length = none
  · obtain ⟨rfl, rfl⟩ := hasked
    obtain ⟨r, hout, hdata, htotal⟩ := readRange_whole name ho
    refine ⟨r, hout, htotal, ?_⟩
    rw [hdata, sliceEnd, Option.elim_none, ByteArray.extract_zero_size]
  · obtain ⟨answer, hget, hwhole, htotal, hbody⟩ := get_inside ho hasked hsize hinside
    refine ⟨_, readRange_of_ok (congrArg (·, m) hget) hwhole, htotal, ?_⟩
    by_cases hnothing : length = some 0
    · have hend : sliceEnd o.data.size offset length = offset := by
        rw [hnothing, sliceEnd, Option.elim_some]
        omega
      rw [if_pos hnothing, hend, ByteArray.extract_same]
    · rw [if_neg hnothing, hbody hnothing]

/-- A read of an object gives the bytes asked for: all of them if no range is given, otherwise those
from the offset on, as many as wanted or as there are. One that starts at the end of the object or
behind it is refused, and one of an object that is not there finds nothing. What is told of the size
is always that of the whole object, and the memory never reaches beyond it. Offsets have 64 bits, and
so have the sizes of objects; nothing wraps around. -/
theorem readRange_slices (name : String) {m : Memory} {key : String}
    (hsize : ∀ o, m.objects.get? key = some o → o.data.size < 2 ^ 64) (offset : UInt64)
    (length : Option UInt64) :
    let wanted := length.map UInt64.toNat
    let out := (Bucket.mk name Memory.serve).readRange key offset.toNat wanted pure m
    out.2 = m ∧
    (m.objects.get? key = none → out.1 = .error (.backend .notFound (.fault Memory.noSuchKey))) ∧
    ∀ o, m.objects.get? key = some o →
      (offset = 0 ∧ length = none → ∃ r, out.1 = .ok r ∧ r.data = o.data ∧ r.size = o.data.size) ∧
      (¬(offset = 0 ∧ length = none) → o.data.size ≤ offset.toNat →
        out.1 = .error (.backend .unknown (.fault Memory.invalidRange))) ∧
      (offset.toNat < o.data.size → ∃ r, out.1 = .ok r ∧ r.size = o.data.size ∧
        r.data = o.data.extract offset.toNat (sliceEnd o.data.size offset.toNat wanted)) ∧
      ∀ header first last, rangeHeader offset.toNat wanted = some header →
        Memory.readRange? header o.data.size = some (first, last) →
        first ≤ last ∧ last < o.data.size := by
  intro wanted out
  have hoffset : offset.toNat ≤ maxWord := Nat.le_pred_of_lt offset.toNat_lt
  have hasked : offset.toNat = 0 ∧ wanted = none ↔ offset = 0 ∧ length = none := by
    rw [Option.map_eq_none_iff, ← UInt64.toNat_inj]
    rfl
  cases ho : m.objects.get? key with
  | none =>
    have hout : out = (.error (.ofFault Memory.noSuchKey), m) := readRange_absent name ho
    rw [hout]
    exact ⟨rfl, fun _ => rfl, fun o h => (by cases h)⟩
  | some o =>
    have hwhole : offset = 0 ∧ length = none → ∃ r, out = (.ok r, m) ∧
        r.data = o.data ∧ r.size = o.data.size := by
      intro h
      obtain ⟨hzero, hnone⟩ := hasked.mpr h
      simp only [out, hzero, hnone]
      exact readRange_whole name ho
    have houtside : ¬(offset = 0 ∧ length = none) → o.data.size ≤ offset.toNat →
        out = (.error (.ofFault Memory.invalidRange), m) := fun h =>
      readRange_outside name ho (mt hasked.mp h) hoffset
    have hinside : offset.toNat < o.data.size → ∃ r, out = (.ok r, m) ∧ r.size = o.data.size ∧
        r.data = o.data.extract offset.toNat (sliceEnd o.data.size offset.toNat wanted) :=
      readRange_inside name ho (Nat.le_pred_of_lt (hsize o ho))
    refine ⟨?_, fun h => (by cases h), ?_⟩
    · by_cases h : offset = 0 ∧ length = none
      · obtain ⟨_, hout, _⟩ := hwhole h
        rw [hout]
      · rcases Nat.lt_or_ge offset.toNat o.data.size with hlt | hge
        · obtain ⟨_, hout, _⟩ := hinside hlt
          rw [hout]
        · rw [houtside h hge]
    · rintro _ ⟨⟩
      refine ⟨?_, fun h hle => congrArg Prod.fst (houtside h hle), ?_, ?_⟩
      · intro h
        obtain ⟨r, hout, hread⟩ := hwhole h
        exact ⟨r, congrArg Prod.fst hout, hread⟩
      · intro hlt
        obtain ⟨r, hout, hread⟩ := hinside hlt
        exact ⟨r, congrArg Prod.fst hout, hread⟩
      · exact fun header first last hheader hread => readRange?_within hoffset hheader hread

/-- A memory with one object of four bytes. -/
def fourBytes : Memory := Memory.empty.put ⟨⟨"bucket", "key"⟩, .none, none⟩ ⟨#[1, 2, 3, 4]⟩

theorem readRange_slices_beyond_end :
    (∀ o, fourBytes.objects.get? "key" = some o → o.data.size < 2 ^ 64) ∧
      ∃ r, ((Bucket.mk "bucket" Memory.serve).readRange "key" 1 (some 18446744073709551615) pure
          fourBytes).1 = .ok r ∧ r.size = 4 ∧ r.data = ⟨#[2, 3, 4]⟩ := by
  have hsize : ∀ o, fourBytes.objects.get? "key" = some o → o.data.size < 2 ^ 64 := by
    intro o ho
    rw [fourBytes, Memory.put, KeyMap.get?_insert_self] at ho
    cases ho
    decide
  have ho : fourBytes.objects.get? "key" = some _ := KeyMap.get?_insert_self _ _ _
  obtain ⟨r, hout, htotal, hdata⟩ :=
    ((readRange_slices "bucket" hsize 1 (some 18446744073709551615)).2.2 _ ho).2.2.1 (by decide)
  exact ⟨hsize, r, hout, htotal, hdata⟩

end Bucket

end BlobStore
