import BlobStore.Memory
import BlobStore.Proofs.Digests
import BlobStore.Proofs.Text.Numeral

/-!
# Tags tell how an object was stored

The tag of an object that went out whole is made of hexadecimal digits and is taken for a digest. The
tag of one that went out in parts ends in their number, and the hyphen in front of it is no digit.
-/

namespace BlobStore

open Text

namespace Memory

variable (data : ByteArray)

/-- The digits of a tag. -/
def tagDigits : String := hexPadded 16 (Bytes.fingerprint data).toNat ++ hexPadded 16 data.size

private theorem wholeTag_eq : wholeTag data = "\"" ++ tagDigits data ++ "\"" := rfl

private theorem partedTag_eq (parts : Nat) :
    partedTag data parts = "\"" ++ (tagDigits data ++ "-" ++ toString parts) ++ "\"" := by
  rw [← String.append_assoc, ← String.append_assoc]
  rfl

private theorem all_isDigitOf_tagDigits : ∀ c ∈ (tagDigits data).toList, isDigitOf 16 c = true := by
  rw [tagDigits, String.toList_append]
  exact List.forall_mem_append.mpr ⟨all_isDigitOf_hexPadded 16 _, all_isDigitOf_hexPadded 16 _⟩

private theorem length_tagDigits {data : ByteArray} (h : data.size < 2 ^ 64) :
    (tagDigits data).toList.length = 32 := by
  have hprint : (hexPadded 16 (Bytes.fingerprint data).toNat).toList.length = 16 :=
    length_hexPadded (by decide) (UInt64.toNat_lt _)
  have hsize : (hexPadded 16 data.size).toList.length = 16 := length_hexPadded (by decide) h
  rw [tagDigits, String.toList_append, List.length_append, hprint, hsize]

theorem isSome_md5OfTag?_wholeTag {data : ByteArray} (h : data.size < 2 ^ 64) :
    (md5OfTag? (some (wholeTag data))).isSome := by
  have hlength := length_tagDigits h
  have htag : (wholeTag data).toList = '"' :: ((tagDigits data).toList ++ ['"']) := by
    rw [wholeTag_eq, String.toList_append, String.toList_append]
    rfl
  refine Option.isSome_iff_exists.mpr (exists_md5OfTag?.mpr ⟨_, htag, ?_, by rw [hlength], ?_⟩)
  · exact List.ne_nil_of_length_eq_add_one hlength
  · exact fun c hc => Bytes.Hex.toLower_mem_alphabet (all_isDigitOf_tagDigits data c hc)

theorem md5OfTag?_partedTag (parts : Nat) : md5OfTag? (some (partedTag data parts)) = none := by
  rw [partedTag_eq]
  exact md5OfTag?_of_parts _ parts

end Memory

end BlobStore
