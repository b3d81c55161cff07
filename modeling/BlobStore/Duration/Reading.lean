import BlobStore.Duration

/-!
# Reading durations

Two notations are read: ISO 8601 with hours, minutes and seconds (`PT1H30M`), and a looser one of
numbers with unit words (`1 hour, 30 minutes`, `1h30m`, `90s ago`) or of a clock (`01:30:00`).
Units go from large to small, each at most once, and only the last number may have a fraction.
-/

namespace BlobStore.Duration

/-- Units in nanoseconds. Days and longer have no fixed length and are not read. -/
inductive Unit where
  | nanosecond
  | microsecond
  | millisecond
  | second
  | minute
  | hour
  deriving DecidableEq, Repr

def Unit.nanos : Unit → Nat
  | .nanosecond => 1
  | .microsecond => 1000
  | .millisecond => 1000000
  | .second => 1000000000
  | .minute => 60000000000
  | .hour => 3600000000000

/-- The words for a unit, each before those that it starts with. -/
def words : List (String × Unit) :=
  [("hours", .hour), ("hour", .hour), ("hrs", .hour), ("hr", .hour), ("h", .hour),
    ("milliseconds", .millisecond), ("millisecond", .millisecond), ("millis", .millisecond),
    ("milli", .millisecond), ("msecs", .millisecond), ("msec", .millisecond), ("ms", .millisecond),
    ("microseconds", .microsecond), ("microsecond", .microsecond), ("micros", .microsecond),
    ("micro", .microsecond), ("usecs", .microsecond), ("usec", .microsecond), ("us", .microsecond),
    ("\u00b5secs", .microsecond), ("\u00b5sec", .microsecond), ("\u00b5s", .microsecond),
    ("minutes", .minute), ("minute", .minute), ("mins", .minute), ("min", .minute), ("m", .minute),
    ("seconds", .second), ("second", .second), ("secs", .second), ("sec", .second), ("s", .second),
    ("nanoseconds", .nanosecond), ("nanosecond", .nanosecond), ("nanos", .nanosecond),
    ("nano", .nanosecond), ("nsecs", .nanosecond), ("nsec", .nanosecond), ("ns", .nanosecond)]

private def isSpace (c : Char) : Bool := c = ' ' || c = '\t' || c = '\n' || c = '\r' || c = '\x0c'

/-- What a duration consists of. -/
structure Parts where
  /-- Numbers and their units, the smallest unit first. -/
  counts : List (Nat × Unit)
  /-- The fraction of the smallest unit, in nanoseconds. -/
  rest : Nat

namespace Parts

def none : Parts := ⟨[], 0⟩

/-- Adds a unit, which must be smaller than all others. -/
def add? (p : Parts) (number : Nat) (unit : Unit) : Option Parts :=
  if p.counts.head?.any fun last => last.2.nanos ≤ unit.nanos then Option.none
  else some { p with counts := (number, unit) :: p.counts }

/-- Adds billionths of the smallest unit. A nanosecond has no parts. -/
def addFraction? (p : Parts) (billionths : Nat) : Option Parts :=
  match p.counts with
  | [] => Option.none
  | (_, .nanosecond) :: _ => Option.none
  | (_, unit) :: _ => some { p with rest := billionths * unit.nanos / 1000000000 }

/-- All parts together. Neither a number nor the whole seconds may be beyond a signed word. -/
def duration? (p : Parts) (negative : Bool) : Option Duration :=
  let bound := if negative then 2 ^ 63 else 2 ^ 63 - 1
  let total := p.counts.foldl (fun total c => total + c.1 * c.2.nanos) 0 + p.rest
  if p.counts.all (·.1 ≤ bound) ∧ total / 1000000000 ≤ bound then
    some ⟨if negative then -(total : Int) else total⟩
  else Option.none

end Parts

/-- How many digits a number may have, zeros in front included. -/
private def maxDigits : Nat := 21

private def takeNumber? (text : List Char) : Option (Nat × List Char) :=
  let digits := text.takeWhile Char.isDigit
  if digits.length ≤ maxDigits then
    ((Text.readNat? 10 digits).filter (· ≤ Text.maxWord)).map fun n => (n, text.dropWhile Char.isDigit)
  else none

/-- A point or a comma with one to nine digits, as billionths; an error when the digits lack. -/
private def takeFraction? (text : List Char) : Option (Option Nat × List Char) :=
  match text with
  | c :: rest =>
    if c = '.' || c = ',' then
      let digits := (rest.take 9).takeWhile Char.isDigit
      if digits.isEmpty then none
      else some (some (Text.valueOf 10 digits * 10 ^ (9 - digits.length)), rest.drop digits.length)
    else some (none, text)
  | [] => some (none, [])

private def takeUnit? (text : List Char) : Option (Unit × List Char) :=
  words.findSome? fun (word, unit) => (word.toList.isPrefixOf? text).map (unit, ·)

/-- Minutes and seconds after the hours of a clock. -/
private def takeClock? (hours : Nat) (text : List Char) : Option (Parts × List Char) := do
  let (minutes, text) ← takeNumber? text
  match text with
  | ':' :: text =>
    let (seconds, text) ← takeNumber? text
    let (fraction, text) ← takeFraction? text
    some (⟨[(seconds, .second), (minutes, .minute), (hours, .hour)], fraction.getD 0⟩, text)
  | _ => none

/-- A comma, with a blank after it. -/
private def takeComma? (text : List Char) : Option (Bool × List Char) :=
  match text with
  | ',' :: c :: rest => if isSpace c then some (true, rest) else none
  | [','] => none
  | _ => some (false, text)

/-- Reads units from a number on, behind the parts read so far. Each step reads at least a digit, so
the length of the text is fuel enough. -/
private def takeUnits? (fuel number : Nat) (parts : Parts) (text : List Char) :
    Option (Parts × List Char) :=
  match fuel with
  | 0 => none
  | fuel + 1 =>
    match text with
    | ':' :: rest => if parts.counts.isEmpty then takeClock? number rest else none
    | _ => do
      let (fraction, text) ← takeFraction? text
      let (unit, text) ← takeUnit? (text.dropWhile isSpace)
      let parts ← parts.add? number unit
      let (comma, text) ← takeComma? text
      let next := text.dropWhile isSpace
      match fraction with
      | some billionths => if comma then none else some (← parts.addFraction? billionths, text)
      | none =>
        if next.head?.any Char.isDigit then
          let (number, text) ← takeNumber? next
          takeUnits? fuel number parts text
        else if comma then none else some (parts, text)

/-- Blanks, and `ago`, which makes the duration negative unless a sign stands in front. -/
private def takeAgo? (signed : Bool) (text : List Char) : Option (Bool × List Char) :=
  match text with
  | c :: rest =>
    if isSpace c then
      match ['a', 'g', 'o'].isPrefixOf? (rest.dropWhile isSpace) with
      | some after => if signed then none else some (true, after)
      | none => some (false, rest.dropWhile isSpace)
    else some (false, text)
  | [] => some (false, [])

private def readWords? (negative signed : Bool) (text : List Char) : Option Duration := do
  let (number, rest) ← takeNumber? text
  let (parts, rest) ← takeUnits? text.length number .none rest
  let (ago, rest) ← takeAgo? signed rest
  if rest.isEmpty then parts.duration? (negative || ago) else none

private def isoUnit? (c : Char) : Option Unit :=
  match c.toLower with
  | 'h' => some .hour
  | 'm' => some .minute
  | 's' => some .second
  | _ => none

/-- Reads numbers with the letters of their units to the end. -/
private def takeIso? (fuel : Nat) (parts : Parts) (text : List Char) : Option Parts :=
  match fuel, text with
  | _, [] => if parts.counts.isEmpty then none else some parts
  | 0, _ => none
  | fuel + 1, text => do
    let (number, text) ← takeNumber? text
    let (fraction, text) ← takeFraction? text
    match text with
    | [] => none
    | c :: rest =>
      let parts ← parts.add? number (← isoUnit? c)
      match fraction with
      | some billionths => if rest.isEmpty then parts.addFraction? billionths else none
      | none => takeIso? fuel parts rest

private def readIso? (negative : Bool) (text : List Char) : Option Duration :=
  match text with
  | _ :: t :: rest =>
    if t.toLower = 't' then (takeIso? rest.length .none rest).bind (·.duration? negative) else none
  | _ => none

def read? (s : String) : Option Duration :=
  let (sign, text) := match s.toList with
    | '+' :: rest => (some false, rest)
    | '-' :: rest => (some true, rest)
    | text => (none, text)
  let negative := sign.getD false
  match text with
  | c :: _ => if c.toLower = 'p' then readIso? negative text else readWords? negative sign.isSome text
  | [] => none

end BlobStore.Duration
