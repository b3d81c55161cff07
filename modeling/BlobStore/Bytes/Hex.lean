import BlobStore.Text.Numeral

/-!
# Hexadecimal bytes

Bytes are written as two lower-case digits each, and read in either case. Reading looks at the
UTF-8 bytes of its text: their number has to be even and each has to be a digit.
-/

namespace BlobStore.Bytes.Hex

inductive Fault where
  | oddLength
  /-- A byte that is no digit, and where it stands. -/
  | invalidCharacter (byte : UInt8) (position : Nat)
  deriving DecidableEq, Repr

def digit (n : Nat) : Char := if n < 10 then Char.ofNat (48 + n) else Char.ofNat (87 + n)

def encodeByte (b : UInt8) : List Char := [digit (b.toNat / 16), digit (b.toNat % 16)]

def encodeList (bytes : List UInt8) : List Char := bytes.flatMap encodeByte

def encode (bytes : ByteArray) : String := String.ofList (encodeList bytes.data.toList)

def digitAt (byte : UInt8) (position : Nat) : Except Fault Nat :=
  match Text.digitValue? (Char.ofNat byte.toNat) with
  | some n => .ok n
  | none => .error (.invalidCharacter byte position)

def decodePairs (position : Nat) : List UInt8 → Except Fault (List UInt8)
  | high :: low :: rest => do
    let h ← digitAt high position
    let l ← digitAt low (position + 1)
    let bytes ← decodePairs (position + 2) rest
    return UInt8.ofNat (h * 16 + l) :: bytes
  | [_] => .error .oddLength
  | [] => .ok []

def decode (text : String) : Except Fault ByteArray :=
  let digits := text.toUTF8.data.toList
  if digits.length % 2 = 0 then (decodePairs 0 digits).map fun l => ⟨l.toArray⟩
  else .error .oddLength

/-- A byte as it is quoted in a message: as the character of that number, escaped when it cannot
be printed. -/
private def quoteByte (byte : UInt8) : String :=
  let n := byte.toNat
  let c := Char.ofNat n
  if n = 0 then "'\\0'"
  else if n = 9 then "'\\t'"
  else if n = 10 then "'\\n'"
  else if n = 13 then "'\\r'"
  else if n = 39 then "'\\''"
  else if n = 92 then "'\\\\'"
  else if n < 32 ∨ (127 ≤ n ∧ n ≤ 160) ∨ n = 173 then
    "'\\u\x7b" ++ String.ofList (Nat.toDigits 16 n) ++ "\x7d'"
  else "'" ++ String.singleton c ++ "'"

def Fault.message : Fault → String
  | .oddLength => "Odd number of digits"
  | .invalidCharacter byte position =>
    s!"Invalid character {quoteByte byte} at position {position}"

end BlobStore.Bytes.Hex
