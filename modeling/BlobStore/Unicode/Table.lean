import BlobStore.Text.Blank
import BlobStore.Text.Cut
import BlobStore.Text.Numeral

/-!
# Tables of code points

Properties of characters are written down as texts of words that are apart by blanks. A word names
a code point, or a range by its first and last one, in base sixteen.
-/

namespace BlobStore.Unicode

def words (text : String) : List (List Char) :=
  (text.toList.splitOnP fun c => c = ' ' || c = '\n').filter (!·.isEmpty)

def codePoint (digits : List Char) : Nat := Text.valueOf 16 digits

/-- A code point or a range of them. -/
def range (word : List Char) : Nat × Nat :=
  match Text.cutAt '-' word with
  | some (first, last) => (codePoint first, codePoint last)
  | none => (codePoint word, codePoint word)

/-- A set of code points, as inclusive ranges. -/
abbrev Ranges := List (Nat × Nat)

def Ranges.read (text : String) : Ranges := (words text).map range

def Ranges.has (ranges : Ranges) (c : Char) : Bool :=
  ranges.any fun r => r.1 ≤ c.toNat && c.toNat ≤ r.2

end BlobStore.Unicode
