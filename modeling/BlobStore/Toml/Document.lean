import BlobStore.Toml.Quoted
import BlobStore.Toml.Scalar
import BlobStore.Toml.Table

/-!
# Documents of TOML

A document is a list of lines: keys with values, and headings that say which table the keys below
them belong to. Values may run over several lines.
-/

namespace BlobStore.Toml

/-! ## Keys -/

def isBareCharacter (c : Char) : Bool := c.isAlphanum || c = '_' || c = '-'

/-- One name, bare or between marks. -/
def readName : Reader String
  | [] => none
  | c :: rest =>
    if c = '"' ∨ c = '\'' then (Quoted.readLine c rest).map fun p => (String.ofList p.1, p.2)
    else if isBareCharacter c then
      some (String.ofList (c :: rest.takeWhile isBareCharacter), rest.dropWhile isBareCharacter)
    else none

/-- Names with dots between them, and the blanks after them. -/
def readNames (text : List Char) : Option (List String × List Char) :=
  match readName text with
  | none => none
  | some (name, rest) =>
    match skipBlanks rest with
    | '.' :: more =>
      if (skipBlanks more).length < text.length then
        (readNames (skipBlanks more)).map fun p => (name :: p.1, p.2)
      else none
    | rest => some ([name], rest)
termination_by text.length

/-- Arrays and tables nest at most this deep, and so do the tables of a dotted key. -/
def maxDepth : Nat := 80

def readKey : Reader (List String) := fun text => (readNames text).filter (·.1.length ≤ maxDepth)

/-! ## Values -/

/-- The items of an array from behind its bracket. -/
def readItems (read : Reader Value) (text : List Char) : Option (List Value × List Char) :=
  match skipFiller text with
  | ']' :: rest => some ([], rest)
  | start =>
    match read start with
    | none => none
    | some (value, rest) =>
      match skipFiller rest with
      | ']' :: rest => some ([value], rest)
      | ',' :: rest =>
        if rest.length < text.length then
          (readItems read rest).map fun p => (value :: p.1, p.2)
        else none
      | _ => none
termination_by text.length

/-- A key, the sign of equality and a value, with what may be skipped between them. -/
def readPair (skip : List Char → List Char) (read : Reader Value) (text : List Char) :
    Option ((List String × Value) × List Char) := do
  let (key, rest) ← readKey text
  let (value, rest) ← read (skip (← take? '=' (skip rest)))
  some ((key, value), rest)

/-- The pairs of a table between braces, from behind the first brace. -/
def readPairs (read : Reader Value) (text : List Char) :
    Option (List (List String × Value) × List Char) :=
  match skipFiller text with
  | '\x7d' :: rest => some ([], rest)
  | start =>
    match readPair skipFiller read start with
    | none => none
    | some (pair, rest) =>
      match skipFiller rest with
      | '\x7d' :: rest => some ([pair], rest)
      | ',' :: rest =>
        if rest.length < text.length then
          (readPairs read rest).map fun p => (pair :: p.1, p.2)
        else none
      | _ => none
termination_by text.length

/-- Reads a value in which arrays and tables may nest to the given depth. -/
def readValue : Nat → Reader Value
  | _, [] => none
  | depth, c :: rest =>
    if c = '"' ∨ c = '\'' then
      (Quoted.readWith c (c :: rest)).map fun p => (.string (String.ofList p.1), p.2)
    else
      match depth with
      | 0 => readWord (c :: rest)
      | depth + 1 =>
        if c = '[' then (readItems (readValue depth) rest).map fun p => (.array p.1, p.2)
        else if c = '\x7b' then do
          let (pairs, rest) ← readPairs (readValue depth) rest
          some (.table .inline (← Table.assignAll pairs []), rest)
        else readWord (c :: rest)

/-! ## Lines -/

inductive Line where
  | empty
  | pair (key : List String) (value : Value)
  | heading (heading : Table.Heading)

/-- What stands between the brackets of a heading, and what follows the first closing one. -/
private def readHeading (isSeries : Bool) (text : List Char) : Option (Table.Heading × List Char) := do
  let (path, rest) ← readKey (skipBlanks text)
  some (⟨path, isSeries⟩, ← take? ']' rest)

private theorem readHeading_of_readKey {isSeries : Bool} {text rest : List Char} {path : List String}
    (h : readKey (skipBlanks text) = some (path, ']' :: rest)) :
    readHeading isSeries text = some (⟨path, isSeries⟩, rest) := by
  rw [readHeading, h]
  simp [take?]

/-- Reads a line with its end. -/
def readLine (text : List Char) : Option (Line × List Char) :=
  match skipBlanks text with
  | '[' :: '[' :: rest => do
    let (heading, rest) ← readHeading true rest
    some (.heading heading, ← lineEnd? (← take? ']' rest))
  | '[' :: rest => do
    let (heading, rest) ← readHeading false rest
    some (.heading heading, ← lineEnd? rest)
  | start =>
    match lineEnd? start with
    | some rest => some (.empty, rest)
    | none => do
      let ((key, value), rest) ← readPair skipBlanks (readValue maxDepth) start
      some (.pair key value, ← lineEnd? rest)

theorem readLine_table {text rest : List Char} {path : List String} (hopen : text.head? ≠ some '[')
    (hpath : readKey (skipBlanks text) = some (path, ']' :: rest)) :
    readLine ('[' :: text) = (lineEnd? rest).map (.heading ⟨path, false⟩, ·) := by
  have htext : skipBlanks ('[' :: text) = '[' :: text := List.dropWhile_cons_of_neg (by decide)
  rw [readLine, htext]
  split
  · rename_i after heq
    cases heq
    exact absurd rfl hopen
  · rename_i after _ heq
    cases heq
    simp only [readHeading_of_readKey hpath, Option.bind_eq_bind, Option.bind_some]
    cases lineEnd? rest with
    | none => rfl
    | some after => rfl
  · rename_i hnot
    exact absurd rfl (hnot text)

theorem readLine_series {text rest : List Char} {path : List String}
    (hpath : readKey (skipBlanks text) = some (path, ']' :: ']' :: rest)) :
    readLine ('[' :: '[' :: text) = (lineEnd? rest).map (.heading ⟨path, true⟩, ·) := by
  have htext : skipBlanks ('[' :: '[' :: text) = '[' :: '[' :: text :=
    List.dropWhile_cons_of_neg (by decide)
  rw [readLine, htext]
  simp only [readHeading_of_readKey hpath, Option.bind_eq_bind, Option.bind_some, take?, if_true]
  cases lineEnd? rest with
  | none => rfl
  | some after => rfl

/-- Reads lines to the end of a text. Every step takes a character, so that the bound is never
reached. -/
private def readLinesWithin : Nat → List Char → Option (List Line)
  | 0, text => if text.isEmpty then some [] else none
  | bound + 1, text =>
    if text.isEmpty then some []
    else
      match readLine text with
      | none => none
      | some (line, rest) => (readLinesWithin bound rest).map (line :: ·)

def readLines (text : List Char) : Option (List Line) := readLinesWithin text.length text

/-- What has been read within a bound is read within a larger one. -/
private theorem readLinesWithin_of_le {bound more : Nat} {text : List Char} {lines : List Line}
    (h : readLinesWithin bound text = some lines) (hle : bound ≤ more) :
    readLinesWithin more text = some lines := by
  induction bound generalizing more text lines with
  | zero =>
    rw [readLinesWithin] at h
    split at h
    · rename_i hempty
      cases more with
      | zero => rw [readLinesWithin, if_pos hempty, h]
      | succ more => rw [readLinesWithin, if_pos hempty, h]
    · cases h
  | succ bound ih =>
    obtain ⟨more, rfl⟩ : ∃ k, more = k + 1 := ⟨more - 1, by omega⟩
    rw [readLinesWithin] at h ⊢
    split
    · rename_i hempty
      rwa [if_pos hempty] at h
    · rename_i hempty
      rw [if_neg hempty] at h
      cases hline : readLine text with
      | none =>
        rw [hline] at h
        cases h
      | some read =>
        rw [hline] at h
        obtain ⟨tail, htail, rfl⟩ := Option.map_eq_some_iff.mp h
        exact Option.map_eq_some_iff.mpr ⟨tail, ih htail (by omega), rfl⟩

theorem readLines_nil : readLines [] = some [] := rfl

theorem readLines_cons {text rest : List Char} {line : Line} {lines : List Line}
    (hline : readLine text = some (line, rest)) (hlt : rest.length < text.length)
    (hrest : readLines rest = some lines) : readLines text = some (line :: lines) := by
  obtain ⟨bound, hbound⟩ : ∃ bound, text.length = bound + 1 := ⟨text.length - 1, by omega⟩
  have hempty : ¬text.isEmpty = true := by
    rw [List.isEmpty_iff_length_eq_zero]
    omega
  rw [readLines, hbound, readLinesWithin, if_neg hempty, hline]
  dsimp only
  rw [readLinesWithin_of_le hrest (by omega), Option.map_some]

/-! ## Documents -/

/-- The keys before the first heading, and the headings with the keys below them. -/
def sections : List Line → List (List String × Value) × List (Table.Heading × List (List String × Value))
  | [] => ([], [])
  | .empty :: lines => sections lines
  | .pair key value :: lines =>
    let (pairs, headed) := sections lines
    ((key, value) :: pairs, headed)
  | .heading heading :: lines =>
    let (pairs, headed) := sections lines
    ([], (heading, pairs) :: headed)

def tableOf (lines : List Line) : Option Entries := do
  let (pairs, headed) := sections lines
  headed.foldlM (fun table (heading, pairs) => Table.attach heading pairs table)
    (← Table.assignAll pairs [])

/-- Reads a document. A byte order mark in front of it does not count. -/
def parse (text : String) : Option Entries :=
  let text := match text.toList with
    | '\ufeff' :: rest => rest
    | text => text
  (readLines text).bind tableOf

end BlobStore.Toml
