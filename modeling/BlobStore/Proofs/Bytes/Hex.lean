import BlobStore.Bytes.Hex
import BlobStore.Proofs.Text.ByteOrder
import BlobStore.Proofs.Text.Numeral

/-!
# Digits spell bytes

A text is read as bytes just if it is made of pairs of hexadecimal digits, and the bytes are those that
the pairs spell. In lower case this is how the bytes are written.
-/

namespace BlobStore.Bytes.Hex

/-- The digits, each at the place of its value. -/
def alphabet : List Char := "0123456789abcdef".toList

/-- Two digits for each byte, of either case. -/
inductive Spells : List Char → List UInt8 → Prop
  | nil : Spells [] []
  | cons {high low : Char} {h l : Nat} {digits : List Char} {bytes : List UInt8} :
      alphabet[h]? = some high.toLower → alphabet[l]? = some low.toLower → Spells digits bytes →
        Spells (high :: low :: digits) (UInt8.ofNat (h * 16 + l) :: bytes)

/-! ## One digit -/

private theorem ascii_of_toLower {c : Char} (h : c.toLower.toNat < 128) : c.toNat < 128 := by
  unfold Char.toLower at h
  split at h
  · rename_i hupper
    have hle : c.toNat ≤ 'Z'.toNat := UInt32.le_iff_toNat_le.mp hupper.2
    exact Nat.lt_of_le_of_lt hle (by decide)
  · exact h

private theorem ascii_of_mem_alphabet {c : Char} (h : c.toLower ∈ alphabet) : c.toNat < 128 := by
  have hall : alphabet.all (·.toNat < 128) = true := by decide
  exact ascii_of_toLower (of_decide_eq_true (List.all_eq_true.mp hall _ h))

private theorem digitValue?_eq_some {c : Char} {n : Nat} :
    Text.digitValue? c = some n ↔ alphabet[n]? = some c.toLower := by
  have hread : ∀ k < 128, (Text.digitValue? (Char.ofNat k)).all
      fun n => alphabet[n]? = some (Char.ofNat k).toLower := by decide +kernel
  have hfound : ∀ n < 16, ∀ k < 128, alphabet[n]? = some (Char.ofNat k).toLower →
      Text.digitValue? (Char.ofNat k) = some n := by decide +kernel
  constructor
  · intro h
    have hascii : c.toNat < 128 := by
      by_contra hc
      rw [Text.digitValue?_of_not_ascii hc] at h
      cases h
    have hall := hread c.toNat hascii
    rw [Char.ofNat_toNat, h] at hall
    exact of_decide_eq_true hall
  · intro h
    have hn : n < 16 := (List.getElem?_eq_some_iff.mp h).1
    have hvalue := hfound n hn c.toNat (ascii_of_mem_alphabet (List.mem_of_getElem? h))
    rw [Char.ofNat_toNat] at hvalue
    exact hvalue h

theorem toLower_mem_alphabet {c : Char} (h : Text.isDigitOf 16 c = true) : c.toLower ∈ alphabet := by
  cases hvalue : Text.digitValue? c with
  | none =>
    rw [Text.isDigitOf, hvalue] at h
    cases h
  | some n => exact List.mem_of_getElem? (digitValue?_eq_some.mp hvalue)

section

variable {digits : List Char} {bytes : List UInt8}

theorem Spells.toLower_mem_alphabet (h : Spells digits bytes) : ∀ c ∈ digits, c.toLower ∈ alphabet := by
  induction h with
  | nil => exact List.forall_mem_nil _
  | cons hhigh hlow _ ih =>
    exact List.forall_mem_cons.mpr ⟨List.mem_of_getElem? hhigh,
      List.forall_mem_cons.mpr ⟨List.mem_of_getElem? hlow, ih⟩⟩

theorem Spells.length_eq (h : Spells digits bytes) : digits.length = 2 * bytes.length := by
  induction h with
  | nil => rfl
  | cons _ _ _ ih =>
    simp only [List.length_cons, ih]
    omega

theorem exists_spells :
    (∃ bytes, Spells digits bytes) ↔ digits.length % 2 = 0 ∧ ∀ c ∈ digits, c.toLower ∈ alphabet := by
  constructor
  · rintro ⟨bytes, h⟩
    exact ⟨by rw [h.length_eq, Nat.mul_mod_right], h.toLower_mem_alphabet⟩
  · rintro ⟨heven, hdigits⟩
    induction digits using List.twoStepInduction with
    | nil => exact ⟨[], .nil⟩
    | singleton c => cases heven
    | cons_cons high low rest ih _ =>
      obtain ⟨hhigh, hdigits⟩ := List.forall_mem_cons.mp hdigits
      obtain ⟨hlow, hdigits⟩ := List.forall_mem_cons.mp hdigits
      obtain ⟨h, hh⟩ := List.mem_iff_getElem?.mp hhigh
      obtain ⟨l, hl⟩ := List.mem_iff_getElem?.mp hlow
      obtain ⟨bytes, hrest⟩ := ih (by simp only [List.length_cons] at heven; omega) hdigits
      exact ⟨_, .cons hh hl hrest⟩

end

private theorem digitAt_eq_ok {byte : UInt8} {position n : Nat} :
    digitAt byte position = .ok n ↔ alphabet[n]? = some (Char.ofNat byte.toNat).toLower := by
  rw [← digitValue?_eq_some, digitAt]
  cases Text.digitValue? (Char.ofNat byte.toNat) <;> simp

private theorem decodePairs_eq_ok {position : Nat} {octets bytes : List UInt8} :
    decodePairs position octets = .ok bytes ↔
      Spells (octets.map fun byte => Char.ofNat byte.toNat) bytes := by
  constructor
  · intro h
    induction position, octets using decodePairs.induct generalizing bytes with
    | case1 position high low rest ih =>
      unfold decodePairs at h
      cases hhigh : digitAt high position with
      | error e => rw [hhigh] at h; cases h
      | ok x =>
        cases hlow : digitAt low (position + 1) with
        | error e => rw [hhigh, hlow] at h; cases h
        | ok y =>
          cases hrest : decodePairs (position + 2) rest with
          | error e => rw [hhigh, hlow, hrest] at h; cases h
          | ok spelled =>
            rw [hhigh, hlow, hrest] at h
            obtain rfl := Except.ok.inj h
            exact .cons (digitAt_eq_ok.mp hhigh) (digitAt_eq_ok.mp hlow) (ih hrest)
    | case2 => cases h
    | case3 =>
      obtain rfl := Except.ok.inj h
      exact .nil
  · intro h
    induction position, octets using decodePairs.induct generalizing bytes with
    | case1 position high low rest ih =>
      cases h with
      | cons hhigh hlow hrest =>
        simp only [decodePairs, digitAt_eq_ok.mpr hhigh, digitAt_eq_ok.mpr hlow, ih hrest]
        rfl
    | case2 => cases h
    | case3 =>
      cases h
      rfl

private theorem decode_eq (text : String) : decode text =
    if (Text.octets text).length % 2 = 0 then
      (decodePairs 0 (Text.octets text)).map fun bytes => ⟨bytes.toArray⟩
    else .error .oddLength :=
  rfl

private theorem ascii_of_octets {text : String}
    (h : ∀ byte ∈ Text.octets text, (Char.ofNat byte.toNat).toLower ∈ alphabet) :
    ∀ c ∈ text.toList, c.toNat < 128 := by
  intro c hc
  obtain ⟨byte, rest, hencoded⟩ := List.exists_cons_of_ne_nil (String.utf8EncodeChar_ne_nil (c := c))
  have hmem : byte ∈ String.utf8EncodeChar c := hencoded ▸ List.mem_cons_self
  have hascii := ascii_of_mem_alphabet (h byte (by
    rw [Text.octets_eq]
    exact List.mem_flatMap_of_mem hc hmem))
  have hvalid : byte.toNat.isValidChar := .inl (Nat.lt_trans byte.toNat_lt (by decide))
  have hbyte : (Char.ofNat byte.toNat).toNat = byte.toNat := by
    rw [Char.ofNat, dif_pos hvalid]
    rfl
  rw [hbyte] at hascii
  rw [Text.toNat_of_octet hmem hascii]
  exact hascii

/-- A text is read as the bytes that it spells. -/
theorem decode_eq_ok {text : String} {bytes : ByteArray} :
    decode text = .ok bytes ↔ Spells text.toList bytes.data.toList := by
  have hback : (∀ c ∈ text.toList, c.toNat < 128) →
      (Text.octets text).map (fun byte => Char.ofNat byte.toNat) = text.toList := by
    intro hascii
    rw [Text.octets_of_ascii hascii, List.map_map]
    exact (List.map_congr_left fun c hc => Text.ofNat_octet_of_ascii (hascii c hc)).trans
      (List.map_id _)
  rw [decode_eq]
  constructor
  · intro h
    split at h
    · cases hpairs : decodePairs 0 (Text.octets text) with
      | error e => rw [hpairs] at h; cases h
      | ok spelled =>
        rw [hpairs] at h
        obtain rfl := Except.ok.inj h
        have hspells := decodePairs_eq_ok.mp hpairs
        have hascii := ascii_of_octets fun byte hbyte =>
          hspells.toLower_mem_alphabet _ (List.mem_map_of_mem hbyte)
        rw [hback hascii] at hspells
        exact hspells
    · cases h
  · intro h
    have hascii := fun c hc => ascii_of_mem_alphabet (h.toLower_mem_alphabet c hc)
    have heven : (Text.octets text).length % 2 = 0 := by
      rw [Text.octets_of_ascii hascii, List.length_map, h.length_eq, Nat.mul_mod_right]
    rw [← hback hascii] at h
    rw [if_pos heven, decodePairs_eq_ok.mpr h]
    rfl

end BlobStore.Bytes.Hex
