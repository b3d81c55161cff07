import BlobStore.Text.Numeral
import BlobStore.Time.Calendar

/-!
# Instants

Points in time between the years -9999 and 9999, to the nanosecond, with the two ways of writing
them: RFC 3339 in UTC, and the fixed column of a listing.
-/

namespace BlobStore.Time

def nanosPerSecond : Nat := 1000000000

/-- Seconds since 1970-01-01T00:00:00Z and the nanoseconds after that second. -/
structure Instant where
  seconds : Int
  nanos : Nat
  earliest : -377705023201 ≤ seconds
  latest : seconds ≤ 253402207200
  nanos_lt : nanos < nanosPerSecond

namespace Instant

def ofSeconds? (seconds : Int) (nanos : Nat) : Option Instant :=
  if h : (-377705023201 ≤ seconds ∧ seconds ≤ 253402207200) ∧ nanos < nanosPerSecond then
    some ⟨seconds, nanos, h.1.1, h.1.2, h.2⟩
  else none

@[simp] theorem ofSeconds?_seconds_nanos (t : Instant) : ofSeconds? t.seconds t.nanos = some t := by
  simp [ofSeconds?, t.earliest, t.latest, t.nanos_lt]

def date (t : Instant) : Date := Date.ofDayNumber (t.seconds / 86400)

def secondOfDay (t : Instant) : Nat := (t.seconds % 86400).toNat

def clock (t : Instant) : String :=
  let s := t.secondOfDay
  Text.zeroPadded 2 (s / 3600) ++ ":" ++ Text.zeroPadded 2 (s / 60 % 60) ++ ":" ++
    Text.zeroPadded 2 (s % 60)

private def monthAndDay (d : Date) : String :=
  "-" ++ Text.zeroPadded 2 d.month ++ "-" ++ Text.zeroPadded 2 d.day

/-- The nanoseconds as a decimal fraction, without trailing zeros; nothing when there are none. -/
def fraction (nanos : Nat) : String :=
  if nanos = 0 then ""
  else
    let digits := Text.padLeft '0' 9 (Nat.toDigits 10 nanos)
    "." ++ String.ofList (digits.reverse.dropWhile (· = '0')).reverse

/-- RFC 3339 in UTC. Years before zero have a minus sign and six digits. -/
def text (t : Instant) : String :=
  let d := t.date
  let year :=
    if d.year < 0 then "-" ++ Text.zeroPadded 6 d.year.natAbs else Text.zeroPadded 4 d.year.toNat
  year ++ monthAndDay d ++ "T" ++ t.clock ++ fraction t.nanos ++ "Z"

/-- The year fills four places, a minus sign counted as one of them. -/
def column (t : Instant) : String :=
  let d := t.date
  let year :=
    if d.year < 0 then "-" ++ Text.zeroPadded 3 d.year.natAbs else Text.zeroPadded 4 d.year.toNat
  year ++ monthAndDay d ++ " " ++ t.clock

end Instant

/-- The time column of a listing; blank when the time is unknown. -/
def columnOf : Option Instant → String
  | some t => t.column
  | none => String.ofList (List.replicate 19 ' ')

end BlobStore.Time
