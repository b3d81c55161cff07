import BlobStore.Text.Numeral

/-!
# JSON

Values whose fields keep their order, and the text they are shown as: two spaces for each level of
nesting, one item or field to a line.
-/

namespace BlobStore.Json

inductive Value where
  | null
  | bool (b : Bool)
  | number (n : Int)
  | string (s : String)
  | array (items : List Value)
  | object (fields : List (String × Value))
  deriving Inhabited

/-- The field of an object if there is a value for it. -/
def optional {α : Type} (name : String) (value : Option α) (toValue : α → Value) : List (String × Value) :=
  (value.map fun a => (name, toValue a)).toList

/-- A character inside a string. Only quotation marks, backslashes and the control characters
below the space are escaped. -/
def escape (c : Char) : List Char :=
  if c = '"' then ['\\', '"']
  else if c = '\\' then ['\\', '\\']
  else if c = '\x08' then ['\\', 'b']
  else if c = '\t' then ['\\', 't']
  else if c = '\n' then ['\\', 'n']
  else if c = '\x0c' then ['\\', 'f']
  else if c = '\r' then ['\\', 'r']
  else if c < ' ' then '\\' :: 'u' :: (Text.hexPadded 4 c.toNat).toList
  else [c]

def quote (s : String) : List Char := '"' :: s.toList.flatMap escape ++ ['"']

def newLine (level : Nat) : List Char := '\n' :: List.replicate (2 * level) ' '

/-- Lines of a list at a level of nesting, between brackets; brackets around nothing stand together. -/
def enclose (opening closing : Char) (level : Nat) : List (List Char) → List Char
  | [] => [opening, closing]
  | first :: rest =>
    opening :: newLine (level + 1) ++ first ++
      rest.flatMap (fun line => ',' :: newLine (level + 1) ++ line) ++ newLine level ++ [closing]

mutual

/-- The text of a value that begins at a level of nesting. -/
def layout (level : Nat) : Value → List Char
  | .null => ['n', 'u', 'l', 'l']
  | .bool true => ['t', 'r', 'u', 'e']
  | .bool false => ['f', 'a', 'l', 's', 'e']
  | .number n => (toString n).toList
  | .string s => quote s
  | .array items => enclose '[' ']' level (layoutItems (level + 1) items)
  | .object fields => enclose '\x7b' '\x7d' level (layoutFields (level + 1) fields)

def layoutItems (level : Nat) : List Value → List (List Char)
  | [] => []
  | item :: items => layout level item :: layoutItems level items

def layoutFields (level : Nat) : List (String × Value) → List (List Char)
  | [] => []
  | (name, value) :: fields =>
    (quote name ++ ':' :: ' ' :: layout level value) :: layoutFields level fields

end

def Value.text (v : Value) : String := String.ofList (layout 0 v)

end BlobStore.Json
