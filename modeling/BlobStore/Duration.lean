import BlobStore.Text.Numeral

/-!
# Durations

A signed span of time to the nanosecond, and its ISO 8601 text in hours, minutes and seconds.
-/

namespace BlobStore

structure Duration where
  nanos : Int
  deriving DecidableEq, Repr

namespace Duration

def perSecond : Nat := 1000000000

def ofSeconds (seconds : Int) : Duration := ⟨seconds * perSecond⟩

def isNegative (d : Duration) : Bool := d.nanos < 0

def isZero (d : Duration) : Bool := d.nanos = 0

def wholeSeconds (d : Duration) : Nat := d.nanos.toNat / perSecond

def subsecond (d : Duration) : Nat := d.nanos.toNat % perSecond

/-- A fraction of a second without trailing zeros. -/
private def fractionText (nanos : Nat) : String :=
  if nanos = 0 then ""
  else "." ++ String.ofList
    ((Text.padLeft '0' 9 (Nat.toDigits 10 nanos)).reverse.dropWhile (· = '0')).reverse

/-- ISO 8601; parts that are zero are left out, but no duration is left without a part. -/
def text (d : Duration) : String :=
  let total := d.nanos.natAbs
  let seconds := total / perSecond
  let part (n : Nat) (unit : String) : String := if n = 0 then "" else toString n ++ unit
  let hours := part (seconds / 3600) "H"
  let minutes := part (seconds / 60 % 60) "M"
  let fraction := fractionText (total % perSecond)
  let rest :=
    if seconds % 60 = 0 ∧ fraction.isEmpty ∧ 60 ≤ seconds then ""
    else toString (seconds % 60) ++ fraction ++ "S"
  (if d.nanos < 0 then "-" else "") ++ "PT" ++ hours ++ minutes ++ rest

end Duration

end BlobStore
