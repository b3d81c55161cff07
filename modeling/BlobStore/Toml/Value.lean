import BlobStore.Text.Numeral

/-!
# Values of TOML

Tables remember how they came about, since that decides whether a later part of the document may
add to them.
-/

namespace BlobStore.Toml

/-- Digits with a power of ten. -/
structure Decimal where
  negative : Bool
  digits : Nat
  exponent : Int
  deriving DecidableEq, Repr

/-- How a table came about. -/
inductive Origin where
  /-- It has a heading of its own. -/
  | headed
  /-- The heading of a table inside it mentions it. -/
  | implied
  /-- A dotted key mentions it. -/
  | dotted
  /-- It stands between braces. -/
  | inline
  deriving DecidableEq, Repr

inductive Value where
  | string (s : String)
  | integer (n : Int)
  /-- A number, or nothing for an infinity or what is no number. -/
  | float (d : Option Decimal)
  | boolean (b : Bool)
  /-- A date, a time or both. -/
  | moment
  | array (items : List Value)
  | table (origin : Origin) (entries : List (String × Value))
  /-- The tables that headings in double brackets add up to; the last one stands first. -/
  | series (last : List (String × Value)) (earlier : List (List (String × Value)))

abbrev Entries := List (String × Value)

/-- A number so large that it rounds to no double: `2^1024 - 2^970` or more. -/
def Decimal.isHuge (d : Decimal) : Bool :=
  let places : Int := (Nat.toDigits 10 d.digits).length + d.exponent
  let bound := 2 ^ 1024 - 2 ^ 970
  if d.digits = 0 ∨ places < 300 then false
  else if 310 < places then true
  else if 0 ≤ d.exponent then decide (bound ≤ d.digits * 10 ^ d.exponent.toNat)
  else decide (bound * 10 ^ d.exponent.natAbs ≤ d.digits)

end BlobStore.Toml
