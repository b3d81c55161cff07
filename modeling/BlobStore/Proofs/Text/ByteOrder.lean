import BlobStore.Text.Utf8

/-!
# The order of texts is the order of their bytes

Texts are compared character by character. As UTF-8 gives characters in their order, and no
character starts like another, comparing the bytes comes to the same.
-/

namespace BlobStore.Text

theorem fromUTF8?_toUTF8 (text : String) : String.fromUTF8? text.toUTF8 = some text := by
  have hvalid : text.toUTF8.IsValidUTF8 := text.isValidUTF8
  rw [String.fromUTF8?, dif_pos hvalid]
  rfl

/-- The bytes that a text is stored as. -/
def octets (s : String) : List UInt8 := s.toUTF8.data.toList

theorem octets_eq (s : String) : octets s = s.toList.flatMap String.utf8EncodeChar := by
  have h : s.toList.utf8Encode = s.toByteArray := String.utf8Encode_toList
  rw [octets, String.toUTF8_eq_toByteArray, ← h, List.utf8Encode]
  exact List.toList_data_toByteArray

private theorem utf8EncodeChar_of_ascii {c : Char} (h : c.toNat < 128) :
    String.utf8EncodeChar c = [UInt8.ofNat c.toNat] := by
  have hval : c.val.toNat ≤ 0x7f := Nat.le_of_lt_succ h
  rw [String.utf8EncodeChar]
  simp only [hval, if_true]
  rfl

theorem ofNat_octet_of_ascii {c : Char} (h : c.toNat < 128) :
    Char.ofNat (UInt8.ofNat c.toNat).toNat = c := by
  rw [UInt8.toNat_ofNat', Nat.mod_eq_of_lt (by omega), Char.ofNat_toNat]

theorem toNat_of_octet {c : Char} {b : UInt8} (hb : b ∈ String.utf8EncodeChar c)
    (hlow : b.toNat < 128) : c.toNat = b.toNat := by
  by_cases h : c.toNat < 128
  · rw [utf8EncodeChar_of_ascii h, List.mem_singleton] at hb
    rw [hb, UInt8.toNat_ofNat', Nat.mod_eq_of_lt (by omega)]
  · -- All octets of such a character have their highest bit set.
    have hhigh : ∀ n, 128 ≤ n → n < 256 → b ≠ UInt8.ofNat n := by
      rintro n hn hlt rfl
      rw [UInt8.toNat_ofNat', Nat.mod_eq_of_lt hlt] at hlow
      omega
    have hval : ¬c.val.toNat ≤ 0x7f := fun hle => h (Nat.lt_succ_of_le hle)
    unfold String.utf8EncodeChar at hb
    generalize c.val.toNat = v at hval hb
    simp only [if_neg hval] at hb
    split at hb
    · simp only [List.mem_cons, List.not_mem_nil, or_false] at hb
      rcases hb with hb | hb <;> exact absurd hb (hhigh _ (by omega) (by omega))
    · split at hb
      · simp only [List.mem_cons, List.not_mem_nil, or_false] at hb
        rcases hb with hb | hb | hb <;> exact absurd hb (hhigh _ (by omega) (by omega))
      · simp only [List.mem_cons, List.not_mem_nil, or_false] at hb
        rcases hb with hb | hb | hb | hb <;> exact absurd hb (hhigh _ (by omega) (by omega))

theorem octets_of_ascii {s : String} (h : ∀ c ∈ s.toList, c.toNat < 128) :
    octets s = s.toList.map fun c => UInt8.ofNat c.toNat := by
  rw [octets_eq]
  generalize s.toList = chars at h
  induction chars with
  | nil => rfl
  | cons c rest ih =>
    rw [List.flatMap_cons, List.map_cons, utf8EncodeChar_of_ascii (h c List.mem_cons_self),
      ih fun d hd => h d (List.mem_cons_of_mem c hd)]
    rfl

private theorem cons_lt {a b : Nat} {x y : List UInt8} (hb : b < 256) (hle : a ≤ b)
    (h : a = b → x < y) : UInt8.ofNat a :: x < UInt8.ofNat b :: y := by
  rw [List.cons_lt_cons_iff]
  rcases Nat.lt_or_eq_of_le hle with hlt | rfl
  · left
    rw [UInt8.lt_iff_toNat_lt, UInt8.toNat_ofNat', UInt8.toNat_ofNat',
      Nat.mod_eq_of_lt (show b < 2 ^ 8 from hb), Nat.mod_eq_of_lt (show a < 2 ^ 8 by omega)]
    exact hlt
  · exact Or.inr ⟨rfl, h rfl⟩

private theorem toNat_lt (c : Char) : c.val.toNat < 0x110000 := by
  rcases c.valid with h | ⟨-, h⟩
  · exact Nat.lt_trans h (by decide)
  · exact h

/-- A character's bytes decide against those of a later one, whatever follows. -/
theorem utf8EncodeChar_lt {c d : Char} (h : c < d) (x y : List UInt8) :
    String.utf8EncodeChar c ++ x < String.utf8EncodeChar d ++ y := by
  have hv : c.val.toNat < d.val.toNat := UInt32.lt_iff_toNat_lt.mp h
  have hmax := toNat_lt d
  unfold String.utf8EncodeChar
  generalize c.val.toNat = v at hv
  generalize d.val.toNat = w at hv hmax
  dsimp only
  -- Where the lengths differ the first bytes do, and where they agree the digits are compared.
  split
  · split
    · exact cons_lt (by omega) (by omega) fun h => absurd h (by omega)
    · split
      · exact cons_lt (by omega) (by omega) fun h => absurd h (by omega)
      · split
        · exact cons_lt (by omega) (by omega) fun h => absurd h (by omega)
        · exact cons_lt (by omega) (by omega) fun h => absurd h (by omega)
  · rw [if_neg (show ¬w ≤ 0x7f by omega)]
    split
    · split
      · exact cons_lt (by omega) (by omega) fun _ =>
          cons_lt (by omega) (by omega) fun h => absurd h (by omega)
      · split
        · exact cons_lt (by omega) (by omega) fun h => absurd h (by omega)
        · exact cons_lt (by omega) (by omega) fun h => absurd h (by omega)
    · rw [if_neg (show ¬w ≤ 0x7ff by omega)]
      split
      · split
        · exact cons_lt (by omega) (by omega) fun _ => cons_lt (by omega) (by omega) fun _ =>
            cons_lt (by omega) (by omega) fun h => absurd h (by omega)
        · exact cons_lt (by omega) (by omega) fun h => absurd h (by omega)
      · rw [if_neg (show ¬w ≤ 0xffff by omega)]
        exact cons_lt (by omega) (by omega) fun _ => cons_lt (by omega) (by omega) fun _ =>
          cons_lt (by omega) (by omega) fun _ =>
            cons_lt (by omega) (by omega) fun h => absurd h (by omega)

private theorem flatMap_lt {xs ys : List Char} (h : xs < ys) :
    xs.flatMap String.utf8EncodeChar < ys.flatMap String.utf8EncodeChar := by
  induction xs generalizing ys with
  | nil =>
    cases ys with
    | nil => exact absurd h (List.not_lt_nil _)
    | cons d ys =>
      have hne : String.utf8EncodeChar d ≠ [] := String.utf8EncodeChar_ne_nil
      rw [List.flatMap_nil, List.flatMap_cons]
      cases he : String.utf8EncodeChar d with
      | nil => exact absurd he hne
      | cons b bs => exact List.nil_lt_cons b _
  | cons c xs ih =>
    cases ys with
    | nil => exact absurd h (List.not_lt_nil _)
    | cons d ys =>
      rw [List.flatMap_cons, List.flatMap_cons]
      rcases List.cons_lt_cons_iff.mp h with hcd | ⟨rfl, hlt⟩
      · exact utf8EncodeChar_lt hcd _ _
      · exact List.append_left_lt (ih hlt)

/-- Texts are in the order of their bytes. -/
theorem octets_lt_iff {s t : String} : octets s < octets t ↔ s < t := by
  have hup : ∀ {s t : String}, s < t → octets s < octets t := by
    intro s t h
    rw [octets_eq, octets_eq]
    exact flatMap_lt (String.lt_iff.mp h)
  refine ⟨?_, hup⟩
  intro h
  by_cases hst : s = t
  · subst hst
    exact absurd h (List.lt_irrefl _)
  · by_cases hts : t < s
    · exact absurd (List.lt_trans h (hup hts)) (List.lt_irrefl _)
    · have hle : s ≤ t := String.not_lt.mp hts
      by_cases hlt : s < t
      · exact hlt
      · exact absurd (String.le_antisymm hle (String.not_lt.mp hlt)) hst

end BlobStore.Text
