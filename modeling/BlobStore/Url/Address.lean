import BlobStore.Text.Numeral

/-!
# Numeric hosts

IPv4 addresses, whose one to four parts may be decimal, octal or hexadecimal, and IPv6 addresses,
which are written with the first longest run of two or more zero pieces left out.
-/

namespace BlobStore.Url

def readIpv4Part? (text : List Char) : Option Nat :=
  let read (base : Nat) (digits : List Char) : Option Nat :=
    if digits.isEmpty then some 0 else Text.readNat? base digits
  match text with
  | [] => none
  | '0' :: 'x' :: digits => read 16 digits
  | '0' :: 'X' :: digits => read 16 digits
  | '0' :: d :: digits => read 8 (d :: digits)
  | digits => read 10 digits

private def withoutFinalEmpty (parts : List (List Char)) : List (List Char) :=
  if parts.getLast? = some [] then parts.dropLast else parts

/-- Whether the last part of a host is a number, which makes the host an IPv4 address. -/
def endsInNumber (host : List Char) : Bool :=
  match (withoutFinalEmpty (host.splitOn '.')).getLast? with
  | none => false
  | some last => (!last.isEmpty && last.all Char.isDigit) || (readIpv4Part? last).isSome

/-- Reads an IPv4 address as a number of 32 bits. All parts but the last are bytes; the last fills
the bytes that are left. -/
def readIpv4? (host : List Char) : Option Nat := do
  let parts := withoutFinalEmpty (host.splitOn '.')
  if 4 < parts.length then none
  let numbers ← parts.mapM readIpv4Part?
  let last ← numbers.getLast?
  let leading := numbers.dropLast
  if leading.any (255 < ·) || 256 ^ (4 - leading.length) ≤ last then none
  let shifted := leading.mapIdx fun i n => n * 256 ^ (3 - i)
  some (shifted.foldl (· + ·) last)

def ipv4Text (address : Nat) : String :=
  s!"{address / 16777216 % 256}.{address / 65536 % 256}.{address / 256 % 256}.{address % 256}"

private def readByte? (text : List Char) : Option Nat :=
  match text with
  | ['0'] => some 0
  | '0' :: _ => none
  | digits => if digits.length ≤ 3 then (Text.readNat? 10 digits).filter (· ≤ 255) else none

/-- The two pieces that an IPv4 address at the end of an IPv6 address stands for. -/
private def readDotted? (text : List Char) : Option (List Nat) := do
  match ← (text.splitOn '.').mapM readByte? with
  | [a, b, c, d] => some [a * 256 + b, c * 256 + d]
  | _ => none

/-- Pieces separated by single colons; the last may be a dotted address if `final` is set. -/
private def readPieces? (final : Bool) : List (List Char) → Option (List Nat)
  | [] => some []
  | [piece] =>
    if final && piece.contains '.' then readDotted? piece
    else if piece.length ≤ 4 then (Text.readNat? 16 piece).map ([·]) else none
  | piece :: rest => do
    let value ← if piece.length ≤ 4 then Text.readNat? 16 piece else none
    return value :: (← readPieces? final rest)

private def readSide? (final : Bool) (text : List Char) : Option (List Nat) :=
  if text.isEmpty then some [] else readPieces? final (text.splitOn ':')

/-- Reads the eight pieces of an IPv6 address. One double colon may stand for a run of zeros. -/
def readIpv6? (text : List Char) : Option (List Nat) :=
  match Text.cutAtWord [':', ':'] text with
  | none => (readSide? true text).filter (·.length = 8)
  | some (left, right) => do
    let before ← readSide? false left
    let after ← readSide? true right
    let given := before.length + after.length
    if 8 ≤ given then none else some (before ++ List.replicate (8 - given) 0 ++ after)

/-- The first longest run of zeros: where it starts and how long it is. -/
private def longestZeros (pieces : List Nat) : Nat × Nat :=
  let starts := (List.range pieces.length).map fun i =>
    (i, ((pieces.drop i).takeWhile (· = 0)).length)
  starts.foldl (fun best run => if best.2 < run.2 then run else best) (0, 0)

private def joinPieces (pieces : List Nat) : String :=
  String.intercalate ":" (pieces.map fun n => String.ofList (Nat.toDigits 16 n))

def ipv6Text (pieces : List Nat) : String :=
  let (start, length) := longestZeros pieces
  if 2 ≤ length then
    joinPieces (pieces.take start) ++ "::" ++ joinPieces (pieces.drop (start + length))
  else joinPieces pieces

private theorem mem_joinPieces {c : Char} {pieces : List Nat} (h : c ∈ (joinPieces pieces).toList) :
    c = ':' ∨ ∃ n, c ∈ Nat.toDigits 16 n := by
  rw [joinPieces, String.toList_intercalate, List.map_map] at h
  rcases Text.mem_intercalate h with hcolon | ⟨part, hpart, hc⟩
  · exact .inl (List.mem_singleton.mp hcolon)
  · obtain ⟨n, -, rfl⟩ := List.mem_map.mp hpart
    rw [Function.comp_apply, String.toList_ofList] at hc
    exact .inr ⟨n, hc⟩

/-- An address is written in hexadecimal digits and colons. -/
theorem mem_ipv6Text {c : Char} {pieces : List Nat} (h : c ∈ (ipv6Text pieces).toList) :
    c = ':' ∨ ∃ n, c ∈ Nat.toDigits 16 n := by
  have hcolons : "::".toList = [':', ':'] := rfl
  unfold ipv6Text at h
  dsimp only at h
  split at h
  · rw [String.toList_append, String.toList_append, List.mem_append, List.mem_append] at h
    rcases h with (hleft | hmiddle) | hright
    · exact mem_joinPieces hleft
    · rw [hcolons, List.mem_cons, List.mem_singleton, or_self] at hmiddle
      exact .inl hmiddle
    · exact mem_joinPieces hright
  · exact mem_joinPieces h

end BlobStore.Url
