import BlobStore.Text.Numeral

/-!
# Sizes for people

A byte count as a number of binary units. The count is first rounded to 53 significant bits, the
precision of the reckoning. It is divided by 1024 until it is below 1024, and written with two
decimals, or with none when it is whole to within 2^-52.
-/

namespace BlobStore.Size

/-- The quotient to the nearest whole number, a half going to the even neighbour. -/
def roundedQuotient (n d : Nat) : Nat :=
  let q := n / d
  let twice := 2 * (n % d)
  if d < twice ∨ (twice = d ∧ q % 2 = 1) then q + 1 else q

/-- A number rounded to 53 significant bits. -/
def roundToPrecision (n : Nat) : Nat :=
  let excess := Nat.log2 n - 52
  roundedQuotient n (2 ^ excess) * 2 ^ excess

/-- How often a number is divided by 1024 before it is below 1024. -/
def scaleOf (n : Nat) : Nat := Nat.log2 n / 10

def units : List String := ["B", "KiB", "MiB", "GiB", "TiB", "PiB", "EiB", "ZiB", "YiB"]

/-- Whether a remainder is within 2^-52 of nothing, in units of `unit`. -/
private def isNegligible (remainder unit : Nat) : Bool := remainder * 2 ^ 52 ≤ unit

def human (bytes : Nat) : String :=
  let n := roundToPrecision bytes
  let scale := scaleOf n
  let unit := 1024 ^ scale
  let number :=
    if isNegligible (n % unit) unit then toString (n / unit)
    else
      let hundredths := roundedQuotient (n * 100) unit
      toString (hundredths / 100) ++ "." ++ Text.zeroPadded 2 (hundredths % 100)
  number ++ " " ++ units.getD scale "YiB"

end BlobStore.Size
