import BlobStore.Text.Numeral
import BlobStore.Text.Utf8

/-!
# Percent encoding

A byte of a URL may be written as a percent sign and two hexadecimal digits. Each part of a URL
has its own set of bytes that must be written so.
-/

namespace BlobStore.Url

/-- The bytes to be written in the long form. -/
abbrev EncodeSet := UInt8 → Bool

private def among (s : String) (b : UInt8) : Bool := s.toList.contains (Char.ofNat b.toNat)

/-- Control characters and everything outside ASCII. -/
def EncodeSet.controls : EncodeSet := fun b => b < 0x20 || 0x7e < b

def EncodeSet.fragment : EncodeSet := fun b => controls b || among " \"<>\x60" b

def EncodeSet.query : EncodeSet := fun b => controls b || among " \"#<>" b

def EncodeSet.specialQuery : EncodeSet := fun b => query b || among "'" b

def EncodeSet.path : EncodeSet := fun b => fragment b || among "#?\x7b\x7d" b

def EncodeSet.userinfo : EncodeSet := fun b => path b || among "/:;=@[\\]^|" b

/-- Everything but letters, digits and `-._~`. -/
def EncodeSet.notUnreserved : EncodeSet := fun b =>
  !((Char.ofNat b.toNat).isAlphanum && b < 0x80 || among "-._~" b)

private def upperDigit (n : Nat) : Char := if n < 10 then Char.ofNat (48 + n) else Char.ofNat (55 + n)

def encodeBytes (set : EncodeSet) (bytes : List UInt8) : List Char :=
  bytes.flatMap fun b =>
    if set b then ['%', upperDigit (b.toNat / 16), upperDigit (b.toNat % 16)]
    else [Char.ofNat b.toNat]

/-- A character that comes of encoding is a percent sign, a digit or a byte as it was. -/
theorem mem_encodeBytes {set : EncodeSet} {bytes : List UInt8} {c : Char}
    (h : c ∈ encodeBytes set bytes) :
    c = '%' ∨ Text.isDigitOf 16 c = true ∨ ∃ b ∈ bytes, set b = false ∧ c = Char.ofNat b.toNat := by
  have hdigit : ∀ n < 16, Text.isDigitOf 16 (upperDigit n) = true := by decide
  obtain ⟨b, hb, hc⟩ := List.mem_flatMap.mp h
  split at hc
  · have hhigh : b.toNat / 16 < 16 := Nat.div_lt_of_lt_mul b.toNat_lt
    have hlow : b.toNat % 16 < 16 := Nat.mod_lt _ (by decide)
    simp only [List.mem_cons, List.not_mem_nil, or_false] at hc
    rcases hc with rfl | rfl | rfl
    · exact .inl rfl
    · exact .inr (.inl (hdigit _ hhigh))
    · exact .inr (.inl (hdigit _ hlow))
  · rename_i hset
    exact .inr (.inr ⟨b, hb, Bool.eq_false_iff.mpr hset, List.mem_singleton.mp hc⟩)

theorem encodeBytes_eq_map {set : EncodeSet} {bytes : List UInt8} (h : ∀ b ∈ bytes, set b = false) :
    encodeBytes set bytes = bytes.map fun b => Char.ofNat b.toNat := by
  induction bytes with
  | nil => rfl
  | cons b rest ih =>
    rw [encodeBytes, List.flatMap_cons, h b List.mem_cons_self]
    exact congrArg (Char.ofNat b.toNat :: ·) (ih fun b' hb' => h b' (List.mem_cons_of_mem b hb'))

def percentEncode (set : EncodeSet) (s : String) : String :=
  String.ofList (encodeBytes set s.toUTF8.data.toList)

/-- A percent sign without two digits after it stands for itself. -/
def decodeBytes : List UInt8 → List UInt8
  | 0x25 :: a :: b :: rest =>
    match Text.digitValue? (Char.ofNat a.toNat), Text.digitValue? (Char.ofNat b.toNat) with
    | some h, some l => UInt8.ofNat (h * 16 + l) :: decodeBytes rest
    | _, _ => 0x25 :: decodeBytes (a :: b :: rest)
  | a :: rest => a :: decodeBytes rest
  | [] => []

/-- The pairs of a form-encoded query: a plus sign is a blank, empty pairs are left out, a pair
without `=` has an empty value. -/
def formPairs (query : String) : List (String × String) :=
  let decode (text : List Char) : String :=
    let spaced := text.map fun c => if c = '+' then ' ' else c
    Text.Utf8.decodeLenient (decodeBytes (String.ofList spaced).toUTF8.data.toList)
  ((query.toList.splitOn '&').filter (!·.isEmpty)).map fun pair =>
    match Text.cutAt '=' pair with
    | some (name, value) => (decode name, decode value)
    | none => (decode pair, "")

end BlobStore.Url
