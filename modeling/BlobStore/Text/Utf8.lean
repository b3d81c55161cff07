/-!
# Lenient UTF-8

Decoding that never fails: each longest run of bytes that starts a character but does not finish
one, and each byte that can start none, becomes one replacement character.
-/

namespace BlobStore.Text.Utf8

/-- A character begun: its bits so far, how many bytes are owed, and the range of the next. -/
structure Begun where
  bits : Nat
  owed : Nat
  low : Nat
  high : Nat

def replacement : Char := Char.ofNat 0xfffd

/-- The first byte of a character: the character itself, one begun, or neither. -/
private def lead (b : Nat) : List Char × Option Begun :=
  if b < 0x80 then ([Char.ofNat b], none)
  else if 0xc2 ≤ b ∧ b ≤ 0xdf then ([], some ⟨b - 0xc0, 1, 0x80, 0xbf⟩)
  else if b = 0xe0 then ([], some ⟨0, 2, 0xa0, 0xbf⟩)
  else if b = 0xed then ([], some ⟨0xd, 2, 0x80, 0x9f⟩)
  else if 0xe1 ≤ b ∧ b ≤ 0xef then ([], some ⟨b - 0xe0, 2, 0x80, 0xbf⟩)
  else if b = 0xf0 then ([], some ⟨0, 3, 0x90, 0xbf⟩)
  else if 0xf1 ≤ b ∧ b ≤ 0xf3 then ([], some ⟨b - 0xf0, 3, 0x80, 0xbf⟩)
  else if b = 0xf4 then ([], some ⟨4, 3, 0x80, 0x8f⟩)
  else ([replacement], none)

private def next (begun : Option Begun) (b : Nat) : List Char × Option Begun :=
  match begun with
  | none => lead b
  | some k =>
    if k.low ≤ b ∧ b ≤ k.high then
      let bits := k.bits * 64 + (b - 0x80)
      if k.owed ≤ 1 then ([Char.ofNat bits], none) else ([], some ⟨bits, k.owed - 1, 0x80, 0xbf⟩)
    else
      let (out, after) := lead b
      (replacement :: out, after)

private def run (begun : Option Begun) : List UInt8 → List Char
  | [] => if begun.isSome then [replacement] else []
  | b :: rest => (next begun b.toNat).1 ++ run (next begun b.toNat).2 rest

/-- Decodes bytes, with a replacement character for what is not UTF-8. -/
def decodeLenient (bytes : List UInt8) : String := String.ofList (run none bytes)

end BlobStore.Text.Utf8
