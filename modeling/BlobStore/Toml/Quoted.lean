import BlobStore.Toml.Scan

/-!
# Strings of TOML

A string stands between quotation marks, in which escapes are read, or between apostrophes, in
which all is literal; with three of either it may run over several lines. A string is written in
the first form in which it needs no escapes but that of the tab, and with escapes if there is none.
-/

namespace BlobStore.Toml.Quoted

/-- The character of a code point, unless the code point belongs to a surrogate pair. -/
def charOf? (n : Nat) : Option Char := if n.isValidChar then some (Char.ofNat n) else none

/-- The character whose code point is written in `count` hexadecimal digits. -/
def codePoint? (count : Nat) (text : List Char) : Option (Char × List Char) :=
  if text.length < count then none
  else ((Text.readNat? 16 (text.take count)).bind charOf?).map fun c => (c, text.drop count)

/-- The escapes of one letter, and what they stand for. -/
def letterEscapes : List (Char × Char) :=
  [('b', '\x08'), ('t', '\t'), ('n', '\n'), ('f', '\x0c'), ('r', '\r'), ('e', '\x1b'),
    ('"', '"'), ('\\', '\\')]

/-- Reads an escape, from behind its backslash. -/
def escape? : Reader Char
  | [] => none
  | c :: rest =>
    match letterEscapes.lookup c with
    | some d => some (d, rest)
    | none =>
      if c = 'x' then codePoint? 2 rest
      else if c = 'u' then codePoint? 4 rest
      else if c = 'U' then codePoint? 8 rest
      else none

theorem length_of_codePoint? {count : Nat} {text rest : List Char} {c : Char}
    (h : codePoint? count text = some (c, rest)) : rest.length ≤ text.length := by
  unfold codePoint? at h
  split at h
  · simp at h
  · obtain ⟨_, _, same⟩ := Option.map_eq_some_iff.mp h
    obtain ⟨_, rfl⟩ := Prod.mk.inj same
    simp

theorem length_of_escape? {text rest : List Char} {c : Char} (h : escape? text = some (c, rest)) :
    rest.length < text.length := by
  cases text with
  | nil => simp [escape?] at h
  | cons d after =>
    simp only [escape?] at h
    split at h
    · simp only [Option.some.injEq, Prod.mk.injEq] at h
      simp [h.2]
    · repeat' split at h
      · exact Nat.lt_succ_of_le (length_of_codePoint? h)
      · exact Nat.lt_succ_of_le (length_of_codePoint? h)
      · exact Nat.lt_succ_of_le (length_of_codePoint? h)
      · simp at h

/-- What follows a line break that a backslash takes back, with the blanks before it and all
blanks and line breaks after it. -/
def joined? (text : List Char) : Option (List Char) :=
  (newline? (skipBlanks text)).map skipBreaks
where
  skipBreaks : List Char → List Char
    | ' ' :: rest => skipBreaks rest
    | '\t' :: rest => skipBreaks rest
    | '\n' :: rest => skipBreaks rest
    | '\r' :: '\n' :: rest => skipBreaks rest
    | rest => rest

theorem length_of_newline? {text rest : List Char} (h : newline? text = some rest) :
    rest.length < text.length := by
  unfold newline? at h
  split at h
  · cases h
    exact Nat.lt_succ_self _
  · cases h
    exact Nat.lt_succ_of_lt (Nat.lt_succ_self _)
  · cases h

theorem length_skipBreaks (text : List Char) : (joined?.skipBreaks text).length ≤ text.length := by
  fun_induction joined?.skipBreaks text with
  | case1 _ ih => exact Nat.le_succ_of_le ih
  | case2 _ ih => exact Nat.le_succ_of_le ih
  | case3 _ ih => exact Nat.le_succ_of_le ih
  | case4 _ ih => exact Nat.le_succ_of_le (Nat.le_succ_of_le ih)
  | case5 => exact Nat.le_refl _

theorem length_of_joined? {text rest : List Char} (h : joined? text = some rest) :
    rest.length < text.length := by
  obtain ⟨_, broken, rfl⟩ := Option.map_eq_some_iff.mp h
  have := length_of_newline? broken
  have := length_dropWhile_le isBlank text
  have := length_skipBreaks ‹_›
  unfold skipBlanks at *
  omega

def cons (c : Char) (read : Option (List Char × List Char)) : Option (List Char × List Char) :=
  read.map fun p => (c :: p.1, p.2)

/-- Reads on from behind the opening mark of a string on one line. -/
def readLine (mark : Char) : Reader (List Char)
  | [] => none
  | c :: rest =>
    if c = mark then some ([], rest)
    else if c = '\\' ∧ mark = '"' then
      match _h : escape? rest with
      | some (d, after) => cons d (readLine mark after)
      | none => none
    else if isPlain c then cons c (readLine mark rest)
    else none
termination_by text => text.length
decreasing_by
  · have := length_of_escape? _h
    simp
    omega
  · simp

/-- What follows three marks. Of up to five marks in a row the last three close a string, and
those before them belong to it. -/
def closed? (mark : Char) (text : List Char) : Option (List Char × List Char) :=
  match [mark, mark, mark].isPrefixOf? text with
  | none => none
  | some rest =>
    match [mark, mark].isPrefixOf? rest with
    | some after => some ([mark, mark], after)
    | none =>
      match [mark].isPrefixOf? rest with
      | some after => some ([mark], after)
      | none => some ([], rest)

/-- Reads on from behind the three opening marks of a string on several lines. -/
def readLines (mark : Char) : Reader (List Char)
  | [] => none
  | c :: rest =>
    match closed? mark (c :: rest) with
    | some found => some found
    | none =>
      if c = '\\' ∧ mark = '"' then
        match _h : joined? rest with
        | some after => readLines mark after
        | none =>
          match _h : escape? rest with
          | some (d, after) => cons d (readLines mark after)
          | none => none
      else if isPlain c ∨ (newline? (c :: rest)).isSome then cons c (readLines mark rest)
      else none
termination_by text => text.length
decreasing_by
  · have := length_of_joined? _h
    simp
    omega
  · have := length_of_escape? _h
    simp
    omega
  · simp

/-- Reads a string between marks of the given kind; a line break right behind three opening marks
does not count. -/
def readWith (mark : Char) (text : List Char) : Option (List Char × List Char) :=
  match [mark, mark, mark].isPrefixOf? text with
  | some rest => readLines mark ((newline? rest).getD rest)
  | none =>
    match text with
    | c :: rest => if c = mark then readLine mark rest else none
    | [] => none

/-! ## Writing -/

/-- How a string is written. -/
structure Form where
  mark : Char
  multiline : Bool
  deriving DecidableEq, Repr

/-- Control characters that cannot stand in a string literally in any form. -/
def isControl (c : Char) : Bool := (c < ' ' && c ≠ '\t' && c ≠ '\n') || c = '\x7f'

def hasTriple (mark : Char) : List Char → Bool
  | a :: b :: c :: rest => (a = mark && b = mark && c = mark) || hasTriple mark (b :: c :: rest)
  | _ => false

/-- The form a string is written in: the first that does without escapes other than that of the
tab, or else one with escapes, on several lines if there is a line break. -/
def formOf (s : List Char) : Form :=
  let control := s.any isControl
  let broken := s.contains '\n'
  if !control && !broken && !s.contains '\\' && !s.contains '"' then ⟨'"', false⟩
  else if !control && !broken && !s.contains '\'' then ⟨'\'', false⟩
  else if !control && !s.contains '\\' && !hasTriple '"' s then ⟨'"', true⟩
  else if !control && !hasTriple '\'' s then ⟨'\'', true⟩
  else ⟨'"', broken⟩

def upperHex (n : Nat) : Char := if n < 10 then Char.ofNat (48 + n) else Char.ofNat (55 + n)

/-- A control character as an escape. -/
def controlEscape (c : Char) : List Char :=
  if c = '\x08' then ['\\', 'b']
  else if c = '\t' then ['\\', 't']
  else if c = '\n' then ['\\', 'n']
  else if c = '\x0c' then ['\\', 'f']
  else if c = '\r' then ['\\', 'r']
  else ['\\', 'u', '0', '0', upperHex (c.toNat / 16), upperHex (c.toNat % 16)]

/-- Writes the inside of a string with escapes. On several lines a line break is left as it is,
and so are quotation marks as long as there are no more than two of them in a row; `run` counts
those that have just been written. -/
def escapeFrom (multiline : Bool) (run : Nat) : List Char → List Char
  | [] => []
  | c :: rest =>
    if c = '"' then
      if multiline && run < 2 then '"' :: escapeFrom multiline (run + 1) rest
      else '\\' :: '"' :: escapeFrom multiline 0 rest
    else if c = '\\' then '\\' :: '\\' :: escapeFrom multiline 0 rest
    else if c = '\n' && multiline then '\n' :: escapeFrom multiline 0 rest
    else if isPlain c && c ≠ '\t' then c :: escapeFrom multiline 0 rest
    else controlEscape c ++ escapeFrom multiline 0 rest

/-- Writes a string with its marks. The text of several lines starts on a line of its own. -/
def write (s : List Char) : List Char :=
  let form := formOf s
  let marks := if form.multiline then [form.mark, form.mark, form.mark] else [form.mark]
  let start := if form.multiline && s.contains '\n' then ['\n'] else []
  let inside := if form.mark = '"' then escapeFrom form.multiline 0 s else s
  marks ++ start ++ inside ++ marks

end BlobStore.Toml.Quoted
