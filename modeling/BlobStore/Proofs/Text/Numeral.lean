import BlobStore.Text.Numeral
import Mathlib.Data.List.Induction

/-!
# Numerals are read as what has been written

The digits of a number, written in some base up to sixteen, are read back as the number. A decimal
numeral holds none of the characters that numerals stand between, so it can be cut off again.
-/

namespace BlobStore.Text

private theorem digitValue?_digitChar {d : Nat} (h : d < 16) :
    digitValue? (Nat.digitChar d) = some d := by
  revert d
  decide

theorem digitValue?_of_not_ascii {c : Char} (h : ¬c.toNat < 128) : digitValue? c = none := by
  have hbig : ∀ d : Char, d.toNat < 128 → ¬c ≤ d := by
    intro d hd hle
    have := UInt32.le_iff_toNat_le.mp hle
    change c.toNat ≤ d.toNat at this
    omega
  simp only [digitValue?, hbig '9' (by decide), hbig 'f' (by decide), hbig 'F' (by decide),
    and_false, if_false]

theorem ascii_of_isDigitOf {c : Char} (h : isDigitOf 16 c = true) : c.toNat < 128 := by
  by_contra hc
  rw [isDigitOf, digitValue?_of_not_ascii hc] at h
  cases h

variable {base : Nat}

/-- The last digit of a number comes off the end. -/
theorem digits_induction {P : Nat → List Char → Prop} (hb : 1 < base)
    (single : ∀ d < base, P d [Nat.digitChar d])
    (more : ∀ n d digits, 0 < n → d < base → P n digits →
      P (base * n + d) (digits ++ [Nat.digitChar d]))
    (n : Nat) : P n (Nat.toDigits base n) := by
  induction n using Nat.strongRecOn with
  | ind n ih =>
    by_cases hn : n < base
    · rw [Nat.toDigits_of_lt_base hn]
      exact single n hn
    · have hle : base ≤ n := Nat.le_of_not_lt hn
      have hlt : n / base < n := Nat.div_lt_self (by omega) hb
      have hpos : 0 < n / base := Nat.div_pos hle (by omega)
      have hstep := more _ (n % base) _ hpos (Nat.mod_lt n (by omega)) (ih (n / base) hlt)
      rw [Nat.div_add_mod] at hstep
      rw [Nat.toDigits_of_base_le hb hle]
      exact hstep

theorem all_isDigitOf_toDigits (hb : 1 < base) (hle : base ≤ 16) (n : Nat) :
    ∀ c ∈ Nat.toDigits base n, isDigitOf base c = true := by
  have hdigit : ∀ d < base, isDigitOf base (Nat.digitChar d) = true := by
    intro d hd
    rw [isDigitOf, digitValue?_digitChar (by omega)]
    exact decide_eq_true hd
  refine digits_induction (P := fun _ digits => ∀ c ∈ digits, isDigitOf base c = true) hb ?_ ?_ n
  · intro d hd
    exact List.forall_mem_singleton.mpr (hdigit d hd)
  · intro _ d digits _ hd ih
    exact List.forall_mem_append.mpr ⟨ih, List.forall_mem_singleton.mpr (hdigit d hd)⟩

theorem exists_toDigits_eq_cons (hb : 1 < base) (hle : base ≤ 16) (n : Nat) :
    ∃ c rest, Nat.toDigits base n = c :: rest ∧ (n = 0 ∨ c ≠ '0') := by
  have hdigit : ∀ d < 16, d = 0 ∨ Nat.digitChar d ≠ '0' := by decide
  refine digits_induction
    (P := fun n digits => ∃ c rest, digits = c :: rest ∧ (n = 0 ∨ c ≠ '0')) hb ?_ ?_ n
  · intro d hd
    exact ⟨_, _, rfl, hdigit d (by omega)⟩
  · rintro n d _ hpos _ ⟨c, rest, rfl, hc⟩
    exact ⟨c, _, rfl, .inr (hc.resolve_left (Nat.ne_of_gt hpos))⟩

theorem valueOf_toDigits (hb : 1 < base) (hle : base ≤ 16) (n : Nat) :
    valueOf base (Nat.toDigits base n) = n := by
  refine digits_induction (P := fun n digits => valueOf base digits = n) hb ?_ ?_ n
  · intro d hd
    simp [valueOf, digitValue?_digitChar (show d < 16 by omega)]
  · intro n d digits _ hd ih
    rw [valueOf] at ih
    rw [valueOf, List.foldl_append, ih, List.foldl_cons, List.foldl_nil,
      digitValue?_digitChar (show d < 16 by omega), Option.getD_some, Nat.mul_comm]

theorem readNat?_toDigits (hb : 1 < base) (hle : base ≤ 16) (n : Nat) :
    readNat? base (Nat.toDigits base n) = some n := by
  have hne : (Nat.toDigits base n).isEmpty = false := by
    rw [List.isEmpty_eq_false_iff]
    exact Nat.toDigits_ne_nil
  have hall : (Nat.toDigits base n).all (isDigitOf base) = true :=
    List.all_eq_true.mpr (all_isDigitOf_toDigits hb hle n)
  rw [readNat?, hne, hall, valueOf_toDigits hb hle]
  rfl

/-! ## Numerals of a width -/

theorem valueOf_append (base : Nat) (high low : List Char) :
    valueOf base (high ++ low) = valueOf base high * base ^ low.length + valueOf base low := by
  induction low using List.reverseRecOn with
  | nil => simp [valueOf]
  | append_singleton low c ih =>
    have hstep : ∀ digits : List Char, valueOf base (digits ++ [c]) =
        valueOf base digits * base + (digitValue? c).getD 0 := by
      intro digits
      rw [valueOf, List.foldl_append]
      rfl
    rw [← List.append_assoc, hstep, hstep, ih, List.length_append, List.length_singleton,
      Nat.pow_succ, Nat.add_mul, Nat.mul_assoc, Nat.add_assoc]

theorem valueOf_zeros (base count : Nat) : valueOf base (List.replicate count '0') = 0 := by
  induction count with
  | zero => rfl
  | succ count ih =>
    have hlast : valueOf base ['0'] = 0 := by
      show 0 * base + 0 = 0
      rw [Nat.zero_mul]
    rw [List.replicate_succ', valueOf_append, ih, hlast, Nat.zero_mul]

theorem valueOf_padLeft (hb : 1 < base) (hle : base ≤ 16) (width n : Nat) :
    valueOf base (padLeft '0' width (Nat.toDigits base n)) = n := by
  rw [padLeft, valueOf_append, valueOf_zeros, valueOf_toDigits hb hle, Nat.zero_mul, Nat.zero_add]

theorem length_padLeft_toDigits {width n : Nat} (hb : 1 < base) (hw : 0 < width)
    (h : n < base ^ width) : (padLeft '0' width (Nat.toDigits base n)).length = width := by
  have hle : (Nat.toDigits base n).length ≤ width := (Nat.length_toDigits_le_iff hb hw).mpr h
  rw [padLeft, List.length_append, List.length_replicate]
  exact Nat.sub_add_cancel hle

private theorem all_isDigitOf_padLeft (hb : 1 < base) (hle : base ≤ 16) (width n : Nat) :
    ∀ c ∈ padLeft '0' width (Nat.toDigits base n), isDigitOf base c = true := by
  intro c hc
  rcases List.mem_append.mp hc with hzero | hdigit
  · obtain rfl := (List.mem_replicate.mp hzero).2
    exact decide_eq_true (show 0 < base by omega)
  · exact all_isDigitOf_toDigits hb hle n c hdigit

theorem isDigit_of_mem_padLeft (width n : Nat) :
    ∀ c ∈ padLeft '0' width (Nat.toDigits 10 n), c.isDigit = true := by
  intro c hc
  rcases List.mem_append.mp hc with hzero | hdigit
  · obtain rfl := (List.mem_replicate.mp hzero).2
    decide
  · exact Nat.isDigit_of_mem_toDigits (by decide) (by decide) hdigit

theorem readNat?_padLeft (hb : 1 < base) (hle : base ≤ 16) (width n : Nat) :
    readNat? base (padLeft '0' width (Nat.toDigits base n)) = some n := by
  have hne : (padLeft '0' width (Nat.toDigits base n)).isEmpty = false := by
    rw [List.isEmpty_eq_false_iff]
    exact List.append_ne_nil_of_right_ne_nil _ Nat.toDigits_ne_nil
  rw [readNat?, hne, List.all_eq_true.mpr (all_isDigitOf_padLeft hb hle width n),
    valueOf_padLeft hb hle]
  rfl

theorem all_isDigitOf_hexPadded (width n : Nat) :
    ∀ c ∈ (hexPadded width n).toList, isDigitOf 16 c = true := by
  rw [hexPadded, String.toList_ofList]
  exact all_isDigitOf_padLeft (by decide) (Nat.le_refl 16) width n

theorem length_hexPadded {width n : Nat} (hw : 0 < width) (h : n < 16 ^ width) :
    (hexPadded width n).toList.length = width := by
  rw [hexPadded, String.toList_ofList]
  exact length_padLeft_toDigits (by decide) hw h

/-! ## Numerals in a text -/

theorem toList_toString (n : Nat) : (toString n).toList = Nat.toDigits 10 n := by
  rw [Nat.toString_eq_repr, Nat.toList_repr]

theorem not_mem_toString {c : Char} (hc : c.isDigit = false) (n : Nat) : c ∉ (toString n).toList := by
  rw [toList_toString]
  intro hmem
  have hdigit := Nat.isDigit_of_mem_toDigits (by decide) (by decide) hmem
  rw [hc] at hdigit
  cases hdigit

theorem readBounded?_toString {bound n : Nat} (h : n ≤ bound) :
    readBounded? bound (toString n).toList = some n := by
  have hsign : ∀ rest, (toString n).toList ≠ '+' :: rest := by
    intro rest heq
    have hmem := not_mem_toString (c := '+') (by decide) n
    rw [heq] at hmem
    exact hmem List.mem_cons_self
  unfold readBounded?
  split
  · rename_i rest heq
    exact absurd heq (hsign rest)
  · dsimp only
    rw [toList_toString, readNat?_toDigits (by decide) (by decide)]
    simp [h]

end BlobStore.Text
