/-!
# Base64

The standard alphabet, with padding.
-/

namespace BlobStore.Bytes.Base64

private def letter (n : Nat) : Char :=
  if n < 26 then Char.ofNat (65 + n)
  else if n < 52 then Char.ofNat (71 + n)
  else if n < 62 then Char.ofNat (n - 4)
  else if n = 62 then '+' else '/'

private def group (a b c : Nat) : List Char :=
  let n := a * 65536 + b * 256 + c
  [letter (n / 262144), letter (n / 4096 % 64), letter (n / 64 % 64), letter (n % 64)]

def encodeList : List UInt8 → List Char
  | a :: b :: c :: rest => group a.toNat b.toNat c.toNat ++ encodeList rest
  | [a, b] => (group a.toNat b.toNat 0).take 3 ++ ['=']
  | [a] => (group a.toNat 0 0).take 2 ++ ['=', '=']
  | [] => []

def encode (bytes : ByteArray) : String := String.ofList (encodeList bytes.data.toList)

end BlobStore.Bytes.Base64
