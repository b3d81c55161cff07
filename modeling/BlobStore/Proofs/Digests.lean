import BlobStore.Attributes
import BlobStore.Proofs.Bytes.Hex

/-!
# Digests in tags

The tag of an object is taken for the digest of its content if it is made of quoted pairs of
hexadecimal digits. The digest that is shown is what stands between the quotes, in lower case.
-/

namespace BlobStore

/-! ## Tags that are digests -/

private theorem unquoted?_eq_some {text inner : List Char} :
    unquoted? text = some inner ↔ text = '"' :: (inner ++ ['"']) := by
  constructor
  · intro h
    unfold unquoted? at h
    split at h
    · rename_i rest
      split at h
      · rename_i reversed hreversed
        obtain rfl := Option.some.inj h
        rw [← List.reverse_cons, ← hreversed, List.reverse_reverse]
      · cases h
    · cases h
  · rintro rfl
    rw [unquoted?, List.reverse_append]
    exact congrArg some (List.reverse_reverse inner)

theorem md5OfTag?_eq_some {tag : String} {digest : ByteArray} : md5OfTag? (some tag) = some digest ↔
    ∃ digits, tag.toList = '"' :: (digits ++ ['"']) ∧ digits ≠ [] ∧
      Bytes.Hex.Spells digits digest.data.toList := by
  have hread (digits : List Char) : (Bytes.Hex.decode (String.ofList digits)).toOption = some digest ↔
      Bytes.Hex.Spells digits digest.data.toList := by
    have hdecode : Bytes.Hex.decode (String.ofList digits) = .ok digest ↔ _ := Bytes.Hex.decode_eq_ok
    rw [String.toList_ofList] at hdecode
    rw [← hdecode]
    cases Bytes.Hex.decode (String.ofList digits) <;> simp [Except.toOption]
  have heq : md5OfTag? (some tag) = (unquoted? tag.toList).bind fun digits =>
      if digits.isEmpty then none else (Bytes.Hex.decode (String.ofList digits)).toOption := by
    unfold md5OfTag?
    simp only [Option.bind_eq_bind, Option.bind_some, Option.bind_none]
  rw [heq, Option.bind_eq_some_iff]
  simp only [unquoted?_eq_some]
  constructor
  · rintro ⟨digits, htag, h⟩
    split at h
    · cases h
    · rename_i hne
      exact ⟨digits, htag, by simpa using hne, (hread digits).mp h⟩
  · rintro ⟨digits, htag, hne, h⟩
    exact ⟨digits, htag, by rw [if_neg (by simpa using hne), (hread digits).mpr h]⟩

/-- Whether a tag gives a digest is a matter of its form. -/
theorem exists_md5OfTag? {tag : String} : (∃ digest, md5OfTag? (some tag) = some digest) ↔
    ∃ digits, tag.toList = '"' :: (digits ++ ['"']) ∧ digits ≠ [] ∧ digits.length % 2 = 0 ∧
      ∀ c ∈ digits, c.toLower ∈ Bytes.Hex.alphabet := by
  constructor
  · rintro ⟨digest, h⟩
    obtain ⟨digits, htag, hne, hspells⟩ := md5OfTag?_eq_some.mp h
    exact ⟨digits, htag, hne, Bytes.Hex.exists_spells.mp ⟨_, hspells⟩⟩
  · rintro ⟨digits, htag, hne, hdigits⟩
    obtain ⟨bytes, hspells⟩ := Bytes.Hex.exists_spells.mpr hdigits
    exact ⟨⟨bytes.toArray⟩, md5OfTag?_eq_some.mpr ⟨digits, htag, hne, hspells⟩⟩

private theorem md5OfTag?_eq_none_of_mem {tag : String} {c : Char} (hmem : c ∈ tag.toList)
    (hquote : c ≠ '"') (hdigit : c.toLower ∉ Bytes.Hex.alphabet) : md5OfTag? (some tag) = none := by
  cases h : md5OfTag? (some tag) with
  | none => rfl
  | some digest =>
    obtain ⟨digits, htag, -, hspells⟩ := md5OfTag?_eq_some.mp h
    rw [htag] at hmem
    have hdigits : c ∈ digits := by simpa [hquote] using hmem
    exact absurd (hspells.toLower_mem_alphabet c hdigits) hdigit

/-- The tag of an object that was stored in parts gives no digest. -/
theorem md5OfTag?_of_parts (inner : String) (parts : Nat) :
    md5OfTag? (some ("\"" ++ (inner ++ "-" ++ toString parts) ++ "\"")) = none := by
  apply md5OfTag?_eq_none_of_mem (c := '-') _ (by decide) (by decide)
  simp

end BlobStore
