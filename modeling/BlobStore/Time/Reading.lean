import BlobStore.Text.Blank
import BlobStore.Time.Moment

/-!
# Reading times

The inverse of the RFC 3339 text of an instant, RFC 3339 times as others write them, and the dates of
header fields.
-/

namespace BlobStore.Time

/-- Reads exactly `width` digits. -/
def takeDigits (width : Nat) (text : List Char) : Option (Nat × List Char) :=
  let digits := text.take width
  if digits.length = width then (Text.readNat? 10 digits).map fun n => (n, text.drop width)
  else none

def takeChar (c : Char) : List Char → Option (List Char)
  | d :: rest => if d = c then some rest else none
  | [] => none

def takeYear : List Char → Option (Int × List Char)
  | '-' :: rest => do
    let (n, rest) ← takeDigits 6 rest
    if n = 0 then none else some (-(n : Int), rest)
  | '+' :: rest => (takeDigits 6 rest).map fun p => ((p.1 : Int), p.2)
  | text => (takeDigits 4 text).map fun p => ((p.1 : Int), p.2)

/-- Up to nine digits after a point, as nanoseconds. -/
def takeFraction : List Char → Option (Nat × List Char)
  | '.' :: rest =>
    let digits := rest.takeWhile Char.isDigit
    if 0 < digits.length ∧ digits.length ≤ 9 then
      some (Text.valueOf 10 digits * 10 ^ (9 - digits.length), rest.drop digits.length)
    else none
  | text => some (0, text)

/-- Seconds since the epoch of a date and a time of day. -/
def secondsAt (d : Date) (hour minute second : Nat) : Int :=
  d.dayNumber * 86400 + (hour * 3600 + minute * 60 + second : Nat)

def takeClock (text : List Char) : Option ((Nat × Nat × Nat) × List Char) := do
  let (hour, text) ← takeDigits 2 text
  let text ← takeChar ':' text
  let (minute, text) ← takeDigits 2 text
  let text ← takeChar ':' text
  let (second, text) ← takeDigits 2 text
  if hour < 24 ∧ minute < 60 ∧ second < 60 then some ((hour, minute, second), text) else none

/-- Reads the RFC 3339 text of a time in UTC. -/
def Instant.read? (text : List Char) : Option Instant := do
  let (year, text) ← takeYear text
  let text ← takeChar '-' text
  let (month, text) ← takeDigits 2 text
  let text ← takeChar '-' text
  let (day, text) ← takeDigits 2 text
  let date : Date := { year, month, day }
  if !date.isValid then none
  let text ← takeChar 'T' text
  let ((hour, minute, second), text) ← takeClock text
  let (nanos, text) ← takeFraction text
  let text ← takeChar 'Z' text
  if !text.isEmpty then none
  Instant.ofSeconds? (secondsAt date hour minute second) nanos

/-- Seconds that a local time is ahead of UTC. -/
private def takeOffset? (text : List Char) : Option (Int × List Char) :=
  match text with
  | 'Z' :: rest => some (0, rest)
  | 'z' :: rest => some (0, rest)
  | sign :: rest => do
    if sign ≠ '+' ∧ sign ≠ '-' then none
    let (hours, rest) ← takeDigits 2 rest
    let rest ← takeChar ':' rest
    let (minutes, rest) ← takeDigits 2 rest
    let seconds : Int := (hours * 3600 + minutes * 60 : Nat)
    if hours < 24 ∧ minutes < 60 then some (if sign = '-' then -seconds else seconds, rest) else none
  | [] => none

/-- Any number of digits after a point, as nanoseconds; what is finer is dropped. -/
private def takeLongFraction : List Char → Option (Nat × List Char)
  | '.' :: rest =>
    let digits := rest.takeWhile Char.isDigit
    if digits.isEmpty then none
    else
      let known := digits.take 9
      some (Text.valueOf 10 known * 10 ^ (9 - known.length), rest.drop digits.length)
  | text => some (0, text)

/-- Whether a day and a minute of UTC are the last of a month: a leap second comes only then. -/
private def endsMonth (seconds : Int) : Bool :=
  let d := Date.ofDayNumber (seconds / 86400)
  d.day = daysInMonth d.year d.month && seconds % 86400 / 60 = 1439

/-- Reads an RFC 3339 time of the years 0 to 9999 with its distance from UTC. A leap second counts as
the end of the second before it. -/
def readTimestamp? (text : List Char) : Option Moment := do
  let (year, text) ← takeDigits 4 text
  let text ← takeChar '-' text
  let (month, text) ← takeDigits 2 text
  let text ← takeChar '-' text
  let (day, text) ← takeDigits 2 text
  let date : Date := { year, month, day }
  if !date.isValid then none
  let text ← match text with
    | 'T' :: rest => some rest
    | 't' :: rest => some rest
    | _ => none
  let (hour, text) ← takeDigits 2 text
  let text ← takeChar ':' text
  let (minute, text) ← takeDigits 2 text
  let text ← takeChar ':' text
  let (second, text) ← takeDigits 2 text
  if 24 ≤ hour ∨ 60 ≤ minute ∨ 60 < second then none
  let (nanos, text) ← takeLongFraction text
  let (ahead, text) ← takeOffset? text
  if !text.isEmpty then none
  if second < 60 then some ⟨secondsAt date hour minute second - ahead, nanos⟩
  else
    let seconds := secondsAt date hour minute 59 - ahead
    if endsMonth seconds then some ⟨seconds, nanosPerSecond - 1⟩ else none

private def months : List String :=
  ["Jan", "Feb", "Mar", "Apr", "May", "Jun", "Jul", "Aug", "Sep", "Oct", "Nov", "Dec"]

/-- Reads a header date such as `Tue, 14 Nov 2023 22:13:20 GMT` with blanks around it. Every part has
its place. The day of the week may be anything, and the second may have up to three decimals. -/
def readHttpDate? (text : List Char) : Option Moment := do
  if text.any ('\x7f' < ·) then none
  let text := Text.trimBlank text
  let size := text.length
  let part (start length : Nat) : List Char := (text.drop start).take length
  let number (start : Nat) : Option Nat := Text.readBounded? 255 (part start 2)
  if size < 29 ∨ 33 < size ∨ part (size - 4) 4 ≠ " GMT".toList then none
  if part 16 1 ≠ [' '] ∨ part 19 1 ≠ [':'] ∨ part 22 1 ≠ [':'] then none
  let nanos ← match part 25 1 with
    | ['.'] =>
      let decimals := part 26 (size - 30)
      (Text.readBounded? 999 decimals).map (· * 10 ^ (9 - decimals.length))
    | [' '] => some 0
    | _ => none
  let month ← months.findIdx? fun m => part 7 5 = ' ' :: m.toList ++ [' ']
  let date : Date := { year := ← Text.readSigned? 31 (part 12 4), month := month + 1, day := ← number 5 }
  let hour ← number 17
  let minute ← number 20
  let second ← number 23
  if !date.isValid ∨ 24 ≤ hour ∨ 60 ≤ minute ∨ 60 ≤ second then none
  some ⟨secondsAt date hour minute second, nanos⟩

end BlobStore.Time
