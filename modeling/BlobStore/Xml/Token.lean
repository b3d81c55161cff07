import BlobStore.Xml.Scan
import BlobStore.Xml.Text

/-!
# Tokens of XML

The tags and texts of a document, up to its first fault. Comments, instructions, declarations and
sections of plain characters are passed over.
-/

namespace BlobStore.Xml

inductive Token where
  /-- A text as it is written, with its entities. -/
  | text (written : List Char)
  /-- A tag at the start of an element; its attributes may be well formed and yet unreadable. -/
  | opening (name : Name) (isReadable : Bool)
  | closing (name : Name)
  /-- The tag of an element without content. -/
  | standalone (name : Name) (isReadable : Bool)
  /-- From here on the document is not well formed. -/
  | fault
  deriving DecidableEq, Repr

inductive Phase where
  /-- In front of the root element; a document type may still come. -/
  | prolog
  /-- Behind the document type. -/
  | typed
  /-- Inside the document type. -/
  | declarations
  /-- Inside so many elements. -/
  | content (depth : Nat)
  /-- Behind the root element. -/
  | epilog
  deriving DecidableEq, Repr

/-- The attributes of a tag and its end: whether they are readable, and whether the element has
content. The first argument bounds the number of attributes. -/
def attributes? : Nat → Bool → List Char → Option (Bool × Bool × List Char)
  | 0, _, _ => none
  | bound + 1, isReadable, text =>
    match skipSpaces text with
    | '/' :: '>' :: rest => some (isReadable, false, rest)
    | '>' :: rest => some (isReadable, true, rest)
    | _ => do
      let (_, rest) ← qualifiedName? (← spaces? text)
      let (quote, rest) ← quote? (← equals? rest)
      let (value, rest) ← textUntil? (·.head?.any fun c => c = quote || c = '<') [] rest
      let rest ← character? quote rest
      attributes? bound (isReadable && (unescapeText? value).isSome) rest

/-- What one step of reading gives. -/
structure Step where
  token : Option Token
  phase : Phase
  rest : List Char

/-- Something that is passed over. -/
private def passed (phase : Phase) (rest : List Char) : Step := ⟨none, phase, rest⟩

/-- A tag that starts an element inside `depth` others, behind its bracket; it has no more attributes
than `bound`. -/
private def tag? (bound depth : Nat) (text : List Char) : Option Step := do
  let (name, rest) ← qualifiedName? text
  let (isReadable, isOpen, rest) ← attributes? bound true rest
  if isOpen then some ⟨some (.opening name isReadable), .content (depth + 1), rest⟩
  else
    some ⟨some (.standalone name isReadable), if depth = 0 then .epilog else .content depth, rest⟩

/-- A tag that ends one of `depth` elements, behind its slash. -/
private def closingTag? (depth : Nat) (text : List Char) : Option Step := do
  let (name, rest) ← qualifiedName? text
  let rest ← character? '>' (skipSpaces rest)
  some ⟨some (.closing name), if depth ≤ 1 then .epilog else .content (depth - 1), rest⟩

/-- A comment or an instruction. -/
private def passMisc? (phase : Phase) (text : List Char) : Option Step :=
  match word? "<!--" text with
  | some rest => (passComment? rest).map (passed phase)
  | none =>
    if startsWith "<?xml " text then none
    else do (passInstruction? (← word? "<?" text)).map (passed phase)

/-- Reads on inside elements, where a text does not hold the end of a section. -/
private def contentStep? (bound depth : Nat) (text : List Char) : Option Step :=
  match text with
  | '<' :: '!' :: _ =>
    match word? "<![CDATA[" text with
    | some rest => (passSection? rest).map (passed (.content depth))
    | none => passMisc? (.content depth) text
  | '<' :: '?' :: _ => passMisc? (.content depth) text
  | '<' :: '/' :: rest => closingTag? depth rest
  | '<' :: rest => tag? bound depth rest
  | text => do
    let (written, rest) ← textUntil? (startsWith "<") [] text
    if Text.containsWord "]]>" (String.ofList written) then none
    else some ⟨some (.text written), .content depth, rest⟩

private def declarationStep? (text : List Char) : Option Step :=
  match word? "<!ENTITY" text with
  | some rest => (passEntity? rest).map (passed .declarations)
  | none =>
    if startsWith "<!ELEMENT" text || startsWith "<!ATTLIST" text || startsWith "<!NOTATION" text then
      (character? '>' (text.dropWhile (· ≠ '>'))).map (passed .declarations)
    else
      match text with
      | ']' :: rest => (character? '>' (skipSpaces rest)).map (passed .typed)
      | _ => passMisc? .declarations text

/-- Reads on from a text that is not empty, and no longer than `bound`. -/
private def step? (bound : Nat) (phase : Phase) (text : List Char) : Option Step :=
  match phase with
  | .content depth => contentStep? bound depth text
  | _ =>
    if text.head?.any isSpace then some (passed phase (skipSpaces text))
    else
      match phase with
      | .declarations => declarationStep? text
      | .epilog => passMisc? .epilog text
      | _ =>
        match text with
        | '<' :: '!' :: _ =>
          match if phase = .prolog then word? "<!DOCTYPE" text else none with
          | some rest =>
            (passDocumentType? rest).map fun p => passed (if p.1 then .declarations else .typed) p.2
          | none => passMisc? phase text
        | '<' :: '?' :: _ => passMisc? phase text
        | '<' :: rest => tag? bound 0 rest
        | _ => none

/-- The tokens of a text; `done` are those in front of it, last first. Every step takes a character,
so that the bound is never reached. -/
private def tokensFrom : Nat → Phase → List Token → List Char → List Token
  | 0, _, done, _ => done.reverse
  | bound + 1, phase, done, text =>
    if text.isEmpty then done.reverse
    else
      match step? (bound + 1) phase text with
      | none => (Token.fault :: done).reverse
      | some s => tokensFrom bound s.phase (s.token.toList ++ done) s.rest

def tokens (document : String) : List Token :=
  let text := document.toList
  let text := (character? (Char.ofNat 0xfeff) text).getD text
  match word? "<?xml " text with
  | none => tokensFrom text.length .prolog [] text
  | some rest =>
    match passDeclaration? rest with
    | none => [.fault]
    | some rest => tokensFrom rest.length .prolog [] rest

end BlobStore.Xml
