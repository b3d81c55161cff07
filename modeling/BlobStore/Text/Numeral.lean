import BlobStore.Text.Cut

/-!
# Numerals

Reading and writing whole numbers. A bounded numeral is a run of decimal digits, with an optional
plus sign, whose value does not exceed a bound.
-/

namespace BlobStore.Text

def digitValue? (c : Char) : Option Nat :=
  if '0' ≤ c ∧ c ≤ '9' then some (c.toNat - '0'.toNat)
  else if 'a' ≤ c ∧ c ≤ 'f' then some (c.toNat - 'a'.toNat + 10)
  else if 'A' ≤ c ∧ c ≤ 'F' then some (c.toNat - 'A'.toNat + 10)
  else none

def isDigitOf (base : Nat) (c : Char) : Bool := (digitValue? c).any (· < base)

/-- The value of a run of digits. Characters that are no digits count as zero. -/
def valueOf (base : Nat) (digits : List Char) : Nat :=
  digits.foldl (fun n c => n * base + (digitValue? c).getD 0) 0

/-- Reads a non-empty run of digits. -/
def readNat? (base : Nat) (text : List Char) : Option Nat :=
  if !text.isEmpty && text.all (isDigitOf base) then some (valueOf base text) else none

/-- Reads a decimal numeral of at most `bound`; one plus sign may stand in front. -/
def readBounded? (bound : Nat) (text : List Char) : Option Nat :=
  let digits := match text with
    | '+' :: rest => rest
    | _ => text
  (readNat? 10 digits).filter (· ≤ bound)

/-- Reads a decimal numeral, with or without a sign, from `-2^bits` up to but not including `2^bits`. -/
def readSigned? (bits : Nat) (text : List Char) : Option Int :=
  match text with
  | '-' :: digits => ((readNat? 10 digits).filter (· ≤ 2 ^ bits)).map fun n => -(n : Int)
  | _ => (readBounded? (2 ^ bits - 1) text).map fun n => (n : Int)

def maxWord : Nat := 2 ^ 64 - 1

/-- A decimal numeral of at least `width` digits. -/
def zeroPadded (width n : Nat) : String := String.ofList (padLeft '0' width (Nat.toDigits 10 n))

/-- A hexadecimal numeral of `width` lower-case digits. -/
def hexPadded (width n : Nat) : String := String.ofList (padLeft '0' width (Nat.toDigits 16 n))

end BlobStore.Text
