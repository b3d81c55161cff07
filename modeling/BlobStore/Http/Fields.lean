import BlobStore.Http.Message
import BlobStore.Text.Numeral
import BlobStore.Time.Reading

/-!
# Header fields of replies

What the header fields of a reply hold. Each kind of field has a reader of the values that came with
its name: it refuses what it cannot read and more than one value, and it finds nothing where nothing
came. Numbers and dates may come in a list with commas.
-/

namespace BlobStore.Http

/-- What a reader of a field makes of it: a refusal, nothing, or a value. -/
abbrev Finding (α : Type) := Option (Option α)

/-- Refuses more than one value. -/
def Finding.ofList {α : Type} : List α → Finding α
  | [] => some none
  | [a] => some (some a)
  | _ => none

/-! ## Lists with commas -/

/-- The rest of a list behind a value. -/
private def behindValue? : List Char → Option (List Char)
  | [] => some []
  | ',' :: rest => some rest
  | _ => none

/-- The first value of a list and the rest of the list. A value in quotes is taken as it is. -/
private def nextItem? (list : List Char) : Option (List Char × List Char) :=
  match list.dropWhile fun c => c = ' ' || c = '\t' with
  | '"' :: rest => do
    let (inside, after) ← Text.cutAt '"' rest
    some (inside, ← behindValue? after)
  | text =>
    let (item, rest) := (Text.cutAt ',' text).getD (text, [])
    some (Text.trimBlank item, rest)

/-- The values of a list. Each step takes a character, so that the bound is never reached. -/
private def itemsFrom : Nat → List Char → Option (List (List Char))
  | 0, list => if list.isEmpty then some [] else none
  | bound + 1, list =>
    if list.isEmpty then some []
    else do
      let (item, rest) ← nextItem? list
      (itemsFrom bound rest).map (item :: ·)

def items? (list : String) : Option (List (List Char)) := itemsFrom list.length list.toList

def listedItem {α : Type} (read : List Char → Option α) (lists : List String) : Finding α :=
  (lists.mapM items?).bind fun items => (items.flatten.mapM read).bind Finding.ofList

/-! ## Dates -/

/-- The first date of a list, which ends in a word, and the rest of the list. -/
private def nextDate? (last : String) (read : List Char → Option Moment) (list : List Char) :
    Option (Moment × List Char) := do
  let (before, after) ← Text.cutAtWord last.toList list
  some (← read (before ++ last.toList), ← behindValue? after)

private def datesFrom (last : String) (read : List Char → Option Moment) :
    Nat → List Char → Option (List Moment)
  | 0, list => if list.isEmpty then some [] else none
  | bound + 1, list =>
    if list.isEmpty then some []
    else do
      let (date, rest) ← nextDate? last read list
      (datesFrom last read bound rest).map (date :: ·)

private def listedDate (last : String) (read : List Char → Option Moment) (lists : List String) :
    Finding Moment :=
  (lists.mapM fun list => datesFrom last read list.length list.toList).bind fun dates =>
    Finding.ofList dates.flatten

/-! ## Kinds of fields -/

def textField (values : List String) : Finding String :=
  Finding.ofList (values.map fun v => String.ofList (Text.trimBlank v.toList))

def integerField (bits : Nat) : List String → Finding Int := listedItem (Text.readSigned? bits)

def truth? (text : List Char) : Option Bool :=
  if text = "true".toList then some true else if text = "false".toList then some false else none

def truthField : List String → Finding Bool := listedItem truth?

/-- A date in the form of header fields, such as `Tue, 14 Nov 2023 22:13:20 GMT`. -/
def dateField : List String → Finding Moment := listedDate " GMT" Time.readHttpDate?

def timestampField : List String → Finding Moment := listedDate "Z" Time.readTimestamp?

/-- When something gets stale, which is passed over if it is no date. -/
def expiryField (values : List String) : Finding Moment :=
  match values with
  | [] => some none
  | first :: _ => if (Time.readHttpDate? first.toList).isSome then dateField values else some none

inductive FieldKind where
  | text
  | integer (bits : Nat)
  | truth
  | date
  | timestamp
  | expiry
  deriving DecidableEq, Repr

/-- Whether the values that came with the name of a field can be read. -/
def FieldKind.accepts (kind : FieldKind) (values : List String) : Bool :=
  match kind with
  | .text => (textField values).isSome
  | .integer bits => (integerField bits values).isSome
  | .truth => (truthField values).isSome
  | .date => (dateField values).isSome
  | .timestamp => (timestampField values).isSome
  | .expiry => (expiryField values).isSome

namespace Reply

/-- Whether all fields of a list can be read. -/
def accepts (r : Reply) (fields : List (String × FieldKind)) : Bool :=
  fields.all fun f => f.2.accepts (r.values f.1)

def text? (r : Reply) (name : String) : Option String := (textField (r.values name)).join

def integer? (r : Reply) (name : String) : Option Int := (integerField 63 (r.values name)).join

def date? (r : Reply) (name : String) : Option Moment := (dateField (r.values name)).join

/-- The fields whose names start in a given way, by what follows; each has one value. -/
def textsBelow (r : Reply) (stem : String) : Option (List (String × String)) :=
  let named := r.valuesBelow stem
  if (named.map (·.1)).Nodup then
    some (named.map fun h => (h.1, String.ofList (Text.trimBlank h.2.toList)))
  else none

end Reply

end BlobStore.Http
