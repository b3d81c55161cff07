import BlobStore.Xml.Token

/-!
# What documents hold

Reading the elements of a document that somebody asks for. An element either holds data, which is its
first text, or a record of other elements by their names. Elements that nobody asks for are passed
over with all that is in them, however that is arranged.
-/

namespace BlobStore.Xml

/-- What is asked for in an element. -/
inductive Shape where
  | data
  | record (fields : List (String × Shape))

/-- What was found in an element. The fields of a record are in the order of the document. -/
inductive Content where
  | data (text : String)
  | record (fields : List (String × Content))

namespace Content

def all (c : Content) (name : String) : List Content :=
  match c with
  | .data _ => []
  | .record fields => (fields.filter (·.1 = name)).map (·.2)

def texts (c : Content) (name : String) : List String :=
  (c.all name).filterMap fun
    | .data text => some text
    | .record _ => none

/-- The data of a name. The last field counts. -/
def text? (c : Content) (name : String) : Option String := (c.texts name).getLast?

end Content

/-- How far the reading of an element has come. -/
inductive Progress where
  /-- Looking for fields; those found are in the reverse order. -/
  | seeking (fields : List (String × Shape)) (found : List (String × Content))
  /-- Waiting for a text. -/
  | waiting
  /-- Nothing that follows in the element counts. -/
  | settled (content : Option Content)

namespace Progress

def content? : Progress → Option Content
  | .seeking _ found => some (.record found.reverse)
  | .waiting => some (.data "")
  | .settled content => content

def isWaiting : Progress → Bool
  | .waiting => true
  | _ => false

/-- The start of an element of a shape, or of one that nobody asks for. -/
def ofShape? : Option Shape → Progress
  | some .data => .waiting
  | some (.record fields) => .seeking fields []
  | none => .settled none

end Progress

/-- An element that is being read, with the number of elements around it. -/
structure Frame where
  name : Name
  depth : Nat
  progress : Progress

/-- Takes in an element that is over. -/
def Frame.receive (outer inner : Frame) : Frame :=
  match outer.progress, inner.progress.content? with
  | .seeking fields found, some content =>
    { outer with progress := .seeking fields ((inner.name.localName, content) :: found) }
  | _, _ => outer

/-- What the outermost element holds if all end here. -/
def endAll (inner : Frame) : List Frame → Option Content
  | [] => inner.progress.content?
  | outer :: rest => endAll (outer.receive inner) rest

/-- Reads on in the innermost element `f`, with `depth` elements open. A tag ends an element only if
it has its name and stands at its depth; else it does not count. -/
def readFrom (f : Frame) (outer : List Frame) (depth : Nat) : List Token → Option Content
  | [] => endAll f outer
  | .fault :: _ => if f.progress.isWaiting then none else endAll f outer
  | .text written :: rest =>
    match f.progress with
    | .waiting =>
      match unescapeText? written with
      | some text => readFrom { f with progress := .settled (some (.data text)) } outer depth rest
      | none => none
    | _ => readFrom f outer depth rest
  | .closing name :: rest =>
    if name = f.name ∧ depth = f.depth + 1 then
      match outer with
      | [] => f.progress.content?
      | next :: outer => readFrom (next.receive f) outer f.depth rest
    else readFrom f outer (depth - 1) rest
  | .opening name isReadable :: rest =>
    match f.progress with
    | .waiting => none
    | .settled _ => readFrom f outer (depth + 1) rest
    | .seeking fields _ =>
      if isReadable then
        readFrom ⟨name, depth, .ofShape? (fields.lookup name.localName)⟩ (f :: outer) (depth + 1) rest
      else readFrom { f with progress := .settled f.progress.content? } outer (depth + 1) rest
  | .standalone name isReadable :: rest =>
    match f.progress with
    | .waiting => none
    | .settled _ => readFrom f outer depth rest
    | .seeking fields _ =>
      if isReadable then
        let inner : Frame := ⟨name, depth, .ofShape? (fields.lookup name.localName)⟩
        readFrom (f.receive inner) outer depth rest
      else readFrom { f with progress := .settled f.progress.content? } outer depth rest

/-- The name of the root element. -/
def rootName? (document : String) : Option Name :=
  match tokens document with
  | .opening name true :: _ => some name
  | .standalone name true :: _ => some name
  | _ => none

/-- What the root element holds of a record. -/
def read? (fields : List (String × Shape)) (document : String) : Option Content :=
  match tokens document with
  | .opening name true :: rest => readFrom ⟨name, 0, .seeking fields []⟩ [] 1 rest
  | .standalone _ true :: _ => some (.record [])
  | _ => none

end BlobStore.Xml
