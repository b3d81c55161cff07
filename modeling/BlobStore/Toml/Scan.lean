import BlobStore.Text.Numeral

/-!
# Between the words of TOML

Blanks, line breaks and comments, and what the readers of the format have in common. A reader takes
something off the front of a text and gives it with the rest, or refuses the text.
-/

namespace BlobStore.Toml

abbrev Reader (α : Type) := List Char → Option (α × List Char)

def isBlank (c : Char) : Bool := c = ' ' || c = '\t'

/-- What may stand in a comment, or in a string without being escaped: everything but control
characters, of which only the tab is allowed. -/
def isPlain (c : Char) : Bool := c = '\t' || (' ' ≤ c && c ≠ '\x7f')

def skipBlanks (text : List Char) : List Char := text.dropWhile isBlank

def newline? : List Char → Option (List Char)
  | '\n' :: rest => some rest
  | '\r' :: '\n' :: rest => some rest
  | _ => none

/-- What follows the end of a line, before which blanks and a comment may stand. The end of the
text ends its last line. -/
def lineEnd? (text : List Char) : Option (List Char) :=
  let rest := match skipBlanks text with
    | '#' :: comment => comment.dropWhile isPlain
    | rest => rest
  if rest.isEmpty then some [] else newline? rest

/-- Skips blanks, line breaks and comments. -/
def skipLines (inComment : Bool) : List Char → List Char
  | [] => []
  | '\n' :: rest => skipLines false rest
  | '\r' :: '\n' :: rest => skipLines false rest
  | c :: rest =>
    if inComment && isPlain c then skipLines true rest
    else if !inComment && isBlank c then skipLines false rest
    else if !inComment && c = '#' then skipLines true rest
    else c :: rest

/-- Skips blanks, line breaks and comments between the items of a list. -/
def skipFiller : List Char → List Char := skipLines false

def take? (c : Char) : List Char → Option (List Char)
  | d :: rest => if d = c then some rest else none
  | [] => none

theorem mem_of_take? {c : Char} {text rest : List Char} (h : take? c text = some rest) : c ∈ text := by
  cases text with
  | nil => cases h
  | cons d after =>
    rw [take?] at h
    split at h
    · rename_i same
      exact same ▸ List.mem_cons_self
    · cases h

theorem length_dropWhile_le (p : Char → Bool) (text : List Char) :
    (text.dropWhile p).length ≤ text.length :=
  (List.dropWhile_suffix p).length_le

end BlobStore.Toml
