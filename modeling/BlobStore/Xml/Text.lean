import BlobStore.Text.Numeral

/-!
# Text in XML

How text is written inside an element, and how it is read back: a character may be written as an
entity, by a name or by its code point.
-/

namespace BlobStore.Xml

/-! ## Writing -/

/-- A character of a text. -/
def escape (c : Char) : List Char :=
  if c = '&' then "&amp;".toList
  else if c = '<' then "&lt;".toList
  else if c = '>' then "&gt;".toList
  else if c = '"' then "&quot;".toList
  else if c = '\'' then "&apos;".toList
  else if c = '\r' ∨ c = '\n' ∨ c = '\u0085' ∨ c = '\u2028' then
    "&#x".toList ++ (Nat.toDigits 16 c.toNat).map Char.toUpper ++ [';']
  else [c]

def escapeText (s : String) : String := String.ofList (s.toList.flatMap escape)

def tag (name inside : String) : String := "<" ++ name ++ ">" ++ inside ++ "</" ++ name ++ ">"

/-! ## Reading -/

private def namedEntities : List (String × Char) :=
  [("lt", '<'), ("gt", '>'), ("amp", '&'), ("quot", '"'), ("apos", '\'')]

/-- The character of a code point, which may be written with a plus sign. -/
private def ofCodePoint? (base : Nat) (digits : List Char) : Option Char := do
  let n ← Text.readNat? base (if digits.head? = some '+' then digits.tail else digits)
  if n.isValidChar then some (Char.ofNat n) else none

def entity? (name : List Char) : Option Char :=
  match name with
  | '#' :: 'x' :: digits => ofCodePoint? 16 digits
  | '#' :: digits => ofCodePoint? 10 digits
  | _ => namedEntities.lookup (String.ofList name)

/-- Reads a text with entities; `pending` holds the entity being read, last character first. -/
def unescape (pending : Option (List Char)) : List Char → Option (List Char)
  | [] => if pending.isNone then some [] else none
  | c :: rest =>
    match pending with
    | none => if c = '&' then unescape (some []) rest else (unescape none rest).map (c :: ·)
    | some name =>
      if c = ';' then do
        let d ← entity? name.reverse
        (unescape none rest).map (d :: ·)
      else unescape (some (c :: name)) rest

/-- The text that is written. -/
def unescapeText? (written : List Char) : Option String :=
  if written.contains '&' then (unescape none written).map String.ofList
  else some (String.ofList written)

end BlobStore.Xml
