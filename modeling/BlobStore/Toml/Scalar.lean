import BlobStore.Text.Cut
import BlobStore.Time.Calendar
import BlobStore.Toml.Scan
import BlobStore.Toml.Value

/-!
# Words of TOML

The values that are written without quotation marks: numbers, truth values, dates and times.
-/

namespace BlobStore.Toml

/-- The digits of a numeral; single underscores may stand between them. -/
def separated? (base : Nat) : List Char → Option (List Char)
  | [] => none
  | [c] => if Text.isDigitOf base c then some [c] else none
  | c :: '_' :: rest =>
    if Text.isDigitOf base c then (separated? base rest).map (c :: ·) else none
  | c :: rest => if Text.isDigitOf base c then (separated? base rest).map (c :: ·) else none

/-- Whether there is a minus sign, and what follows the sign if there is one. -/
def signed : List Char → Bool × List Char
  | '-' :: rest => (true, rest)
  | '+' :: rest => (false, rest)
  | text => (false, text)

def withSign (negative : Bool) (n : Nat) : Int := if negative then -n else n

/-- A decimal numeral; only zero itself begins with a zero. -/
def whole? (text : List Char) : Option Nat :=
  match separated? 10 text with
  | some ('0' :: _ :: _) => none
  | some digits => some (Text.valueOf 10 digits)
  | none => none

def integer? (text : List Char) : Option Int :=
  let inBase (base : Nat) (digits : List Char) : Option Int :=
    (separated? base digits).map fun digits => (Text.valueOf base digits : Int)
  match text with
  | '0' :: 'x' :: digits => inBase 16 digits
  | '0' :: 'o' :: digits => inBase 8 digits
  | '0' :: 'b' :: digits => inBase 2 digits
  | _ => (whole? (signed text).2).map (withSign (signed text).1)

private def isExponentMark (c : Char) : Bool := c = 'e' || c = 'E'

/-- The exponent that follows a number, if there is one. -/
private def exponent? : List Char → Option Int
  | [] => some 0
  | _ :: text => (separated? 10 (signed text).2).map fun digits =>
    withSign (signed text).1 (Text.valueOf 10 digits)

/-- A number with a decimal point, an exponent or both. -/
def decimal? (text : List Char) : Option Decimal := do
  let (negative, text) := signed text
  let mantissa := text.takeWhile (!isExponentMark ·)
  let rest := text.dropWhile (!isExponentMark ·)
  let exponent ← exponent? rest
  match Text.cutAt '.' mantissa with
  | some (whole, fraction) =>
    let whole ← whole? whole
    let fraction ← separated? 10 fraction
    some
      { negative, exponent := exponent - fraction.length
        digits := whole * 10 ^ fraction.length + Text.valueOf 10 fraction }
  | none => if rest.isEmpty then none else some { negative, digits := ← whole? mantissa, exponent }

/-- A number of two digits that is at most `bound`. -/
private def two? (bound : Nat) : List Char → Option (Nat × List Char)
  | a :: b :: rest => ((Text.readNat? 10 [a, b]).filter (· ≤ bound)).map (·, rest)
  | _ => none

private theorem rest_of_two? {bound n : Nat} {text rest : List Char}
    (h : two? bound text = some (n, rest)) : rest = text.drop 2 := by
  unfold two? at h
  split at h
  · obtain ⟨_, _, same⟩ := Option.map_eq_some_iff.mp h
    exact (Prod.mk.inj same).2.symm
  · cases h

/-- What follows a date. -/
def afterDate? (text : List Char) : Option (List Char) := do
  let year ← Text.readNat? 10 (text.take 4)
  let (month, rest) ← two? 12 (← take? '-' (text.drop 4))
  let (day, rest) ← two? 31 (← take? '-' rest)
  if (Time.Date.mk year month day).isValid then some rest else none

/-- What follows a fraction of a second, if there is one. -/
private def afterFraction? : List Char → Option (List Char)
  | '.' :: d :: rest => if d.isDigit then some (rest.dropWhile Char.isDigit) else none
  | '.' :: [] => none
  | text => some text

/-- What follows a time; its seconds may be left out. -/
def afterTime? (text : List Char) : Option (List Char) := do
  let (_, rest) ← two? 23 text
  let (_, rest) ← two? 59 (← take? ':' rest)
  match rest with
  | ':' :: seconds => afterFraction? (← two? 60 seconds).2
  | _ => some rest

theorem mem_of_afterDate? {text rest : List Char} (h : afterDate? text = some rest) : '-' ∈ text := by
  simp only [afterDate?, Option.bind_eq_bind, Option.bind_eq_some_iff] at h
  obtain ⟨_, _, after, hyphen, _⟩ := h
  exact List.mem_of_mem_drop (mem_of_take? hyphen)

theorem mem_of_afterTime? {text rest : List Char} (h : afterTime? text = some rest) : ':' ∈ text := by
  simp only [afterTime?, Option.bind_eq_bind, Option.bind_eq_some_iff] at h
  obtain ⟨⟨_, minutes⟩, hour, after, colon, _⟩ := h
  rw [rest_of_two? hour] at colon
  exact List.mem_of_mem_drop (mem_of_take? colon)

/-- Whether a text is a distance from UTC, or empty. -/
def isOffset : List Char → Bool
  | [] => true
  | ['Z'] => true
  | ['z'] => true
  | '+' :: rest => isDistance rest
  | '-' :: rest => isDistance rest
  | _ => false
where
  isDistance (text : List Char) : Bool :=
    match two? 23 text with
    | some (_, ':' :: minutes) => (two? 59 minutes).any (·.2.isEmpty)
    | _ => false

private def isTimeMark (c : Char) : Bool := c = 'T' || c = 't' || c = ' '

/-- A date, a time, or both with or without a distance from UTC. -/
def isMoment (text : List Char) : Bool :=
  match afterDate? text with
  | some [] => true
  | some (mark :: time) => isTimeMark mark && (afterTime? time).any isOffset
  | none => (afterTime? text).any List.isEmpty

def wordValue? (word : List Char) : Option Value :=
  if word = "true".toList then some (.boolean true)
  else if word = "false".toList then some (.boolean false)
  else if (signed word).2 = "inf".toList ∨ (signed word).2 = "nan".toList then some (.float none)
  else if isMoment word then some .moment
  else match integer? word with
    | some n => some (.integer n)
    | none => (decimal? word).map fun d => .float (some d)

def isWordCharacter (c : Char) : Bool :=
  c.isAlphanum || c = '+' || c = '-' || c = '_' || c = '.' || c = ':'

/-- Takes a word off the front. A blank may stand between a date and a time. -/
def takeWord (text : List Char) : List Char × List Char :=
  let word := text.takeWhile isWordCharacter
  let rest := text.dropWhile isWordCharacter
  match afterDate? word, rest with
  | some [], ' ' :: d :: time =>
    if d.isDigit then
      (word ++ ' ' :: (d :: time).takeWhile isWordCharacter, (d :: time).dropWhile isWordCharacter)
    else (word, rest)
  | _, _ => (word, rest)

/-- Reads a value that is one word. -/
def readWord : Reader Value := fun text =>
  (wordValue? (takeWord text).1).map (·, (takeWord text).2)

end BlobStore.Toml
