import BlobStore.Text.Cut

/-!
# Scanning XML

The small parts of a document: blanks, names, quoted values and what is passed over, which are
comments, instructions and declarations. Each reader takes its part from the front of a text and
gives the rest.
-/

namespace BlobStore.Xml

def isSpace (c : Char) : Bool := c = ' ' || c = '\t' || c = '\n' || c = '\r'

/-- Whether a character may stand in a document at all. -/
def isCharacter (c : Char) : Bool :=
  if c.toNat < 0x20 then isSpace c else c.toNat ≠ 0xfffe && c.toNat ≠ 0xffff

/-- Code points outside ASCII that a name may start with. -/
def nameStartRanges : List (Nat × Nat) :=
  [(0xc0, 0xd6), (0xd8, 0xf6), (0xf8, 0x2ff), (0x370, 0x37d), (0x37f, 0x1fff), (0x200c, 0x200d),
    (0x2070, 0x218f), (0x2c00, 0x2fef), (0x3001, 0xd7ff), (0xf900, 0xfdcf), (0xfdf0, 0xfffd),
    (0x10000, 0xeffff)]

/-- Code points outside ASCII that may only stand further on in a name. -/
def nameInnerRanges : List (Nat × Nat) := [(0xb7, 0xb7), (0x300, 0x36f), (0x203f, 0x2040)]

private def isAmong (ranges : List (Nat × Nat)) (c : Char) : Bool :=
  ranges.any fun r => r.1 ≤ c.toNat && c.toNat ≤ r.2

def isNameStart (c : Char) : Bool := c.isAlpha || c = ':' || c = '_' || isAmong nameStartRanges c

def isNamePart (c : Char) : Bool :=
  isNameStart c || c.isDigit || c = '-' || c = '.' || isAmong nameInnerRanges c

/-! ## Small readers -/

def skipSpaces (text : List Char) : List Char := text.dropWhile isSpace

/-- Blanks that have to be there. -/
def spaces? (text : List Char) : Option (List Char) :=
  if text.head?.any isSpace then some (skipSpaces text) else none

def word? (word : String) (text : List Char) : Option (List Char) := word.toList.isPrefixOf? text

def character? (c : Char) (text : List Char) : Option (List Char) := [c].isPrefixOf? text

def startsWith (word : String) (text : List Char) : Bool := word.toList.isPrefixOf text

/-- An equals sign with blanks around it. -/
def equals? (text : List Char) : Option (List Char) :=
  (character? '=' (skipSpaces text)).map skipSpaces

def quote? : List Char → Option (Char × List Char)
  | c :: rest => if c = '"' ∨ c = '\'' then some (c, rest) else none
  | [] => none

/-- Text up to the place where `ends` holds, or to the end; `done` is what was read, last first. -/
def textUntil? (ends : List Char → Bool) (done : List Char) :
    List Char → Option (List Char × List Char)
  | [] => some (done.reverse, [])
  | c :: rest =>
    if !isCharacter c then none
    else if ends (c :: rest) then some (done.reverse, c :: rest)
    else textUntil? ends (c :: done) rest

/-- Text up to a word, which is taken too. -/
def textBefore? (word : String) (text : List Char) : Option (List Char × List Char) := do
  let (inside, rest) ← textUntil? (startsWith word) [] text
  some (inside, ← word? word rest)

/-! ## Names -/

def name? (text : List Char) : Option (String × List Char) :=
  if text.head?.any isNameStart then
    some (String.ofList (text.takeWhile isNamePart), text.dropWhile isNamePart)
  else none

/-- The name of an element or an attribute. One colon may part it. -/
structure Name where
  qualifier : String
  localName : String
  deriving DecidableEq, Repr

def qualifiedName? (text : List Char) : Option (Name × List Char) :=
  let rest := text.dropWhile isNamePart
  let isPart (part : List Char) : Bool := part.head?.any isNameStart
  match (text.takeWhile isNamePart).splitOn ':' with
  | [localName] => if isPart localName then some (⟨"", String.ofList localName⟩, rest) else none
  | [qualifier, localName] =>
    if (qualifier.isEmpty || isPart qualifier) && isPart localName then
      some (⟨String.ofList qualifier, String.ofList localName⟩, rest)
    else none
  | _ => none

/-! ## What is passed over -/

/-- The rest of a comment, which holds no two hyphens in a row. -/
def passComment? (text : List Char) : Option (List Char) := do
  let (inside, rest) ← textBefore? "-->" text
  if Text.containsWord "--" (String.ofList inside) || inside.getLast? = some '-' then none
  else some rest

/-- The rest of an instruction. -/
def passInstruction? (text : List Char) : Option (List Char) := do
  let (_, rest) ← name? text
  let (_, rest) ← textBefore? "?>" (skipSpaces rest)
  some rest

def passSection? (text : List Char) : Option (List Char) := (textBefore? "]]>" text).map (·.2)

/-- Blanks after an attribute of the XML declaration, unless the declaration ends there. -/
private def gap? (text : List Char) : Option (List Char) :=
  if text.isEmpty || startsWith "?>" text then some text else spaces? text

/-- An attribute of the XML declaration that may be left out. -/
private def passAttribute? (word : String) (value? : List Char → Option (List Char)) (text : List Char) :
    Option (List Char) :=
  match word? word text with
  | none => some text
  | some rest => do
    let (quote, rest) ← quote? (← equals? rest)
    gap? (← character? quote (← value? rest))

private def isEncodingCharacter (c : Char) : Bool := c.isAlphanum || c = '.' || c = '-' || c = '_'

private def passAnswer? (text : List Char) : Option (List Char) := do
  let (answer, rest) ← name? text
  if answer = "yes" ∨ answer = "no" then some rest else none

/-- The rest of the XML declaration. -/
def passDeclaration? (text : List Char) : Option (List Char) := do
  let text := skipSpaces text
  if !startsWith "version" text then none
  let text ← passAttribute? "version" (fun text => (word? "1." text).map (·.dropWhile Char.isDigit)) text
  let text ← passAttribute? "encoding" (fun text => some (text.dropWhile isEncodingCharacter)) text
  let text ← match word? "standalone" text with
    | none => some text
    | some rest => do
      let (quote, rest) ← quote? (← equals? rest)
      character? quote (← passAnswer? rest)
  word? "?>" (skipSpaces text)

/-- A value in quotes in which anything may stand. -/
private def passLiteral? (text : List Char) : Option (List Char) := do
  let (quote, rest) ← quote? text
  character? quote (rest.dropWhile (· ≠ quote))

/-- Where the rest of a document type is kept, if that is told. -/
private def passExternal? (text : List Char) : Option (List Char) :=
  match word? "SYSTEM" text, word? "PUBLIC" text with
  | some rest, _ => do passLiteral? (← spaces? rest)
  | none, some rest => do passLiteral? (← spaces? (← passLiteral? (← spaces? rest)))
  | none, none => some text

/-- The rest of a document type up to its declarations or its end, and whether declarations follow. -/
def passDocumentType? (text : List Char) : Option (Bool × List Char) := do
  let (_, rest) ← name? (← spaces? text)
  match skipSpaces (← passExternal? (skipSpaces rest)) with
  | '[' :: rest => some (true, rest)
  | '>' :: rest => some (false, rest)
  | _ => none

/-- The rest of the declaration of an entity. -/
def passEntity? (text : List Char) : Option (List Char) := do
  let text ← spaces? text
  let isGeneral := text.head? ≠ some '%'
  let (_, text) ← name? (← if isGeneral then some text else spaces? text.tail)
  let text ← spaces? text
  let text ←
    if startsWith "SYSTEM" text || startsWith "PUBLIC" text then do
      let rest ← passExternal? text
      match if isGeneral then word? "NDATA" (skipSpaces rest) else none with
      | some rest => (name? (← spaces? rest)).map (·.2)
      | none => some rest
    else passLiteral? text
  character? '>' (skipSpaces text)

end BlobStore.Xml
