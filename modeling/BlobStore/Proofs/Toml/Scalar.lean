import BlobStore.Proofs.Text.Numeral
import BlobStore.Toml.Scalar

/-!
# Numbers of TOML are read as what has been written

A decimal numeral without a sign is no other kind of word: neither a truth value nor a date nor a
time, and there is no prefix for another base.
-/

namespace BlobStore.Toml

variable {text rest : List Char} {n : Nat}

private theorem separated?_of_digits {base : Nat} (hne : text ≠ [])
    (hdigits : ∀ c ∈ text, c ≠ '_' ∧ Text.isDigitOf base c = true) :
    separated? base text = some text := by
  induction text with
  | nil => exact absurd rfl hne
  | cons c text ih =>
    have hc := hdigits c List.mem_cons_self
    cases text with
    | nil => rw [separated?, if_pos hc.2]
    | cons d text =>
      have hd := hdigits d (List.mem_cons_of_mem _ List.mem_cons_self)
      have htext := ih (List.cons_ne_nil _ _) fun e he => hdigits e (List.mem_cons_of_mem _ he)
      rw [separated?, if_pos hc.2, htext, Option.map_some]
      · exact nofun
      · intro after heq
        exact hd.1 (List.cons.inj heq).1

theorem isDigit_of_mem_toDigits (n : Nat) : ∀ c ∈ Nat.toDigits 10 n, c.isDigit = true := fun _ hc =>
  Nat.isDigit_of_mem_toDigits (by decide) (by decide) hc

private theorem whole?_toDigits (n : Nat) : whole? (Nat.toDigits 10 n) = some n := by
  have hdigits : ∀ c ∈ Nat.toDigits 10 n, c ≠ '_' ∧ Text.isDigitOf 10 c = true := by
    intro c hc
    refine ⟨?_, Text.all_isDigitOf_toDigits (by decide) (by decide) n c hc⟩
    rintro rfl
    exact absurd (isDigit_of_mem_toDigits n _ hc) (by decide)
  rw [whole?, separated?_of_digits Nat.toDigits_ne_nil hdigits]
  split
  · rename_i c after heq
    obtain ⟨d, tail, hcons, hzero⟩ :=
      Text.exists_toDigits_eq_cons (show 1 < 10 by decide) (by decide) n
    have hhead := (Option.some.inj heq).symm.trans hcons
    rcases hzero with rfl | hne
    · cases hhead
      cases heq
    · exact absurd (List.cons.inj hhead).1.symm hne
  · rename_i digits _ heq
    rw [← Option.some.inj heq, Text.valueOf_toDigits (by decide) (by decide)]
  · rename_i heq
    cases heq

/-! ## What is no digit does not occur -/

section Digits

variable (hdigits : ∀ c ∈ text, c.isDigit = true)

include hdigits

private theorem not_mem_of_digits {c : Char} (hc : c.isDigit = false) : c ∉ text := by
  intro hmem
  rw [hdigits c hmem] at hc
  cases hc

private theorem signed_of_digits : signed text = (false, text) := by
  unfold signed
  split
  · exact absurd List.mem_cons_self (not_mem_of_digits hdigits (by decide))
  · exact absurd List.mem_cons_self (not_mem_of_digits hdigits (by decide))
  · rfl

private theorem afterDate?_of_digits : afterDate? text = none := by
  rw [Option.eq_none_iff_forall_ne_some]
  intro rest h
  exact not_mem_of_digits hdigits (by decide) (mem_of_afterDate? h)

private theorem isMoment_of_digits : isMoment text = false := by
  have htime : afterTime? text = none := by
    rw [Option.eq_none_iff_forall_ne_some]
    intro rest h
    exact not_mem_of_digits hdigits (by decide) (mem_of_afterTime? h)
  rw [isMoment, afterDate?_of_digits hdigits, htime]
  rfl

private theorem integer?_of_digits : integer? text = (whole? text).map Int.ofNat := by
  unfold integer?
  dsimp only
  split
  · exact absurd (List.mem_cons_of_mem _ List.mem_cons_self) (not_mem_of_digits hdigits (by decide))
  · exact absurd (List.mem_cons_of_mem _ List.mem_cons_self) (not_mem_of_digits hdigits (by decide))
  · exact absurd (List.mem_cons_of_mem _ List.mem_cons_self) (not_mem_of_digits hdigits (by decide))
  · rw [signed_of_digits hdigits]
    rfl

private theorem wordValue?_of_digits (h : whole? text = some n) :
    wordValue? text = some (.integer n) := by
  have hne : ∀ c word, c.isDigit = false → c ∈ word → text ≠ word := by
    rintro c _ hc hmem rfl
    exact not_mem_of_digits hdigits hc hmem
  have htrue : text ≠ "true".toList := hne 't' _ (by decide) (by decide)
  have hfalse : text ≠ "false".toList := hne 'f' _ (by decide) (by decide)
  have hinf : text ≠ "inf".toList := hne 'i' _ (by decide) (by decide)
  have hnan : text ≠ "nan".toList := hne 'n' _ (by decide) (by decide)
  rw [wordValue?, if_neg htrue, if_neg hfalse, signed_of_digits hdigits,
    if_neg (not_or.mpr ⟨hinf, hnan⟩), isMoment_of_digits hdigits, integer?_of_digits hdigits, h]
  rfl

private theorem takeWord_of_digits : takeWord (text ++ '\n' :: rest) = (text, '\n' :: rest) := by
  have hword : ∀ c ∈ text, isWordCharacter c = true := by
    intro c hc
    simp [isWordCharacter, Char.isAlphanum, hdigits c hc]
  have hend : ¬isWordCharacter '\n' = true := by decide
  rw [takeWord, List.takeWhile_append_of_pos hword, List.dropWhile_append_of_pos hword,
    List.takeWhile_cons_of_neg hend, List.dropWhile_cons_of_neg hend,
    List.append_nil, afterDate?_of_digits hdigits]

end Digits

theorem readWord_toString (n : Nat) (rest : List Char) :
    readWord ((toString n).toList ++ '\n' :: rest) = some (.integer n, '\n' :: rest) := by
  have hdigits := isDigit_of_mem_toDigits n
  rw [Text.toList_toString, readWord, takeWord_of_digits hdigits,
    wordValue?_of_digits hdigits (whole?_toDigits n)]
  rfl

end BlobStore.Toml
