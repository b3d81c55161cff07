import BlobStore.Unicode.Composition
import BlobStore.Unicode.Direction
import BlobStore.Unicode.Joining
import BlobStore.Unicode.Mark
import BlobStore.Url.Domain.Repertoire
import BlobStore.Url.Punycode

/-!
# Labels

The parts of a domain. A label with characters outside ASCII is written in Punycode behind `xn--`;
a label that is written so has to stand for such characters in their plain form.
-/

namespace BlobStore.Url.Domain

structure Label where
  /-- The label in ASCII. -/
  ascii : List Char
  /-- The label with the characters that it stands for. -/
  characters : List Char
  deriving DecidableEq, Repr

def isAscii (text : List Char) : Bool := text.all (·.toNat < 0x80)

/-- ASCII characters that no domain holds: controls, blanks and the delimiters of a URL. -/
def isForbidden (c : Char) : Bool :=
  c.toNat ≤ 0x20 || c.toNat = 0x7f || "#%/:<>?@[\\]^|".toList.contains c

/-! ## Joiners

Two characters without a look of their own keep letters apart or join them. They may stand behind
the sign that takes the vowel from a letter; the first also between two letters that would join.
-/

def nonJoiner : Char := Char.ofNat 0x200c
def joiner : Char := Char.ofNat 0x200d

/-- Whether the first letter of a text joins in one of the given ways. -/
def startsJoining (ways : List Unicode.Joining) : List Char → Bool
  | [] => false
  | c :: rest =>
    ways.contains (Unicode.joining c) ||
      (Unicode.joining c = .transparent && startsJoining ways rest)

/-- Whether all joiners are where they may be. `before` is what stands in front, last first. -/
def placesJoiners (before : List Char) : List Char → Bool
  | [] => true
  | c :: rest =>
    let isPlaced :=
      (c ≠ nonJoiner && c ≠ joiner) || before.head?.any Unicode.isVirama ||
        (c = nonJoiner && startsJoining [.left, .dual] before && startsJoining [.right, .dual] rest)
    isPlaced && placesJoiners (c :: before) rest

/-- A label starts with no mark and has its joiners in place. -/
def isWellFormed (label : List Char) : Bool :=
  !label.head?.any Unicode.isMark && placesJoiners [] label

/-! ## Reading -/

/-- Text that is written as the characters that it means, in their composed form. -/
def isPlainText (text : List Char) : Bool :=
  text.all isPlain && Unicode.compose (text.map Char.toNat) = text.map Char.toNat

/-- What stands in front of a label in Punycode. -/
def codedMark : List Char := "xn--".toList

/-- The longest label that is written in Punycode. -/
def maxPlainLength : Nat := 1000

/-- The longest Punycode that is read. -/
def maxCodedLength : Nat := 2000

private def readCoded? (coded : List Char) : Option Label := do
  if !isAscii coded || maxCodedLength < coded.length then none
  let characters := (← Punycode.decode? coded).map Char.ofNat
  if !isAscii characters && isPlainText characters && isWellFormed characters then
    some ⟨codedMark ++ coded, characters⟩
  else none

def Label.read? (label : List Char) : Option Label :=
  if label.any isForbidden then none
  else
    match codedMark.isPrefixOf? label with
    | some coded => readCoded? coded
    | none =>
      if isAscii label then some ⟨label, label⟩
      else if label.length ≤ maxPlainLength ∧ isWellFormed label then
        some ⟨codedMark ++ Punycode.encode label, label⟩
      else none

/-! ## Directions

In a domain that holds letters which are written from right to left, each label keeps to one
direction, so that the labels are shown in their order.
-/

def isRightToLeft (c : Char) : Bool :=
  let d := Unicode.direction c
  d = .rightToLeft || d = .arabicDigit

/-- The directions that a label may hold, the first of them the one it starts with. -/
def allowedInside (start : Unicode.Direction) : List Unicode.Direction :=
  if start = .leftToRight then [.leftToRight, .europeanDigit, .neutral, .nonspacing]
  else [.rightToLeft, .arabicDigit, .europeanDigit, .neutral, .nonspacing]

/-- The directions with which a label may end. -/
def allowedAtEnd (start : Unicode.Direction) : List Unicode.Direction :=
  if start = .leftToRight then [.leftToRight, .europeanDigit]
  else [.rightToLeft, .arabicDigit, .europeanDigit]

/-- Marks without width at the end of a label do not count, and a label from right to left holds
digits of one kind. -/
def keepsDirection (label : List Char) : Bool :=
  let directions := label.map Unicode.direction
  match directions with
  | [] => true
  | start :: rest =>
    let last := (rest.reverse.dropWhile (· = .nonspacing)).head?
    (start = .leftToRight || start = .rightToLeft) && rest.all (allowedInside start).contains &&
      last.all (allowedAtEnd start).contains &&
      !(start = .rightToLeft && directions.contains .europeanDigit && directions.contains .arabicDigit)

end BlobStore.Url.Domain
