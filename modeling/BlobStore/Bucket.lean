import BlobStore.Bytes.Base64
import BlobStore.Listing
import BlobStore.Writer

/-!
# Buckets

The operations on one bucket of a service. Each makes one request or two, in the form the service
wants, and brings the answer into the form of the library. Before a request goes out the caller
may adjust it, or refuse it with an error.
-/

namespace BlobStore

structure Bucket (σ : Type) where
  name : String
  serve : Service σ

structure WriteOptions where
  headers : Headers
  contentMd5 : Option ByteArray
  /-- The part size asked for; zero leaves the choice open. -/
  bufferSize : Nat

/-- A range of an object, with what the service told about the object. -/
structure Reading where
  size : Nat
  contentType : Option String
  modified : Option Time.Instant
  contentRange : Option String
  data : ByteArray

/-- How a caller changes a request before it is made. -/
abbrev Adjust (α : Type) := α → Except Error α

/-- The range header for `length` bytes at `offset`. A range cannot be empty, so one byte is asked
for where none is wanted; the last byte never lies beyond the 64 bits of an offset. -/
def rangeHeader (offset : Nat) (length : Option Nat) : Option String :=
  match length with
  | none => if offset = 0 then none else some s!"bytes={offset}-"
  | some 0 => some s!"bytes={offset}-{offset}"
  | some (n + 1) => some s!"bytes={offset}-{min (offset + n) Text.maxWord}"

namespace Bucket

variable {σ : Type}

/-- A bucket needs a name. -/
def open? (name : String) (serve : Service σ) : Except Error (Bucket σ) :=
  if name.isEmpty then .error (.invalidArgument .namelessBucket) else .ok ⟨name, serve⟩

def address (b : Bucket σ) (key : String) : Address := ⟨b.name, key⟩

def request (b : Bucket σ) (r : Request) : Action σ r.Reply := fun s =>
  match b.serve r s with
  | (.ok a, s) => (.ok a, s)
  | (.error e, s) => (.error (.ofFault e), s)

private def lift {α : Type} (e : Except Error α) : Action σ α := fun s => (e, s)

def attributes (b : Bucket σ) (key : String) : Action σ Attributes := do
  return .ofHead (← b.request (.head (b.address key)))

/-- Reads a range to its end. The body is not looked at where nothing of it is wanted. -/
def readRange (b : Bucket σ) (key : String) (offset : Nat) (length : Option Nat)
    (adjust : Adjust GetQuery) : Action σ Reading := do
  let query : GetQuery := { GetQuery.whole (b.address key) with range := rangeHeader offset length }
  let query ← lift (adjust query)
  let answer : Download ← b.request (.get query)
  if !answer.isWhole ∧ length ≠ some 0 then throw (.io .brokenStream)
  return { size := wholeSize answer.contentRange answer.contentLength
           contentType := answer.contentType
           modified := answer.lastModified.bind Moment.instant?
           contentRange := answer.contentRange
           data := if length = some 0 then ByteArray.empty else answer.body }

def readAll (b : Bucket σ) (key : String) : Action σ ByteArray := do
  return (← b.readRange key 0 none pure).data

/-- What is to be stored under a key with the given options. Empty metadata counts as none. -/
def newObject (b : Bucket σ) (key : String) (options : WriteOptions) : NewObject :=
  { address := b.address key
    headers := { options.headers with metadata := options.headers.metadata.filter (!·.isEmpty) }
    contentMd5 := options.contentMd5.map Bytes.Base64.encode }

def openWriter (b : Bucket σ) (key : String) (options : WriteOptions) (adjust : Adjust NewObject) :
    Except Error Writer :=
  (adjust (b.newObject key options)).map fun object => .new object (partSizeFor options.bufferSize)

def writeAll (b : Bucket σ) (key : String) (data : ByteArray) (options : WriteOptions)
    (adjust : Adjust NewObject) : Action σ Unit := fun s =>
  match b.openWriter key options adjust with
  | .error e => (.error e, s)
  | .ok w =>
    match w.write b.serve data s with
    | ((.error e, w), s) => (.error e, w.abandon b.serve s)
    | ((.ok _, w), s) => w.close b.serve s

def listPage (b : Bucket σ) (options : ListOptions) (adjust : Adjust ListQuery) : Action σ ListPage := do
  let query ← lift (options.query b.name)
  let query ← lift (adjust query)
  return .ofListed (← b.request (.list query))

/-- The service does not tell whether there was anything to delete, so that is asked first. -/
def delete (b : Bucket σ) (key : String) : Action σ Unit := do
  let _ ← b.attributes key
  b.request (.delete (b.address key))

def contains (b : Bucket σ) (key : String) : Action σ Bool := fun s =>
  match b.attributes key s with
  | (.ok _, s) => (.ok true, s)
  | (.error e, s) => if e.errorClass = .notFound then (.ok false, s) else (.error e, s)

/-- How long a signed URL is valid when nothing is asked for. -/
def defaultExpiry : Duration := .ofSeconds 3600

def signedUrl (b : Bucket σ) (key : String) (expiry : Duration) : Action σ String :=
  if expiry.isZero ∨ expiry.isNegative ∨ (Duration.ofSeconds maxSignedSeconds).nanos < expiry.nanos then
    throw (.invalidArgument .expiryOutOfRange)
  else b.request (.presign (.whole (b.address key)) expiry)

end Bucket

namespace ListCursor

variable {σ : Type}

/-- Asks for the next page. An error leaves the cursor as it was. -/
def fetch (b : Bucket σ) (adjust : Adjust ListQuery) (c : ListCursor) :
    StateM σ (Except Error ListCursor) := fun s =>
  match b.listPage c.options adjust s with
  | (.ok page, s) => (.ok (c.accept page), s)
  | (.error e, s) => (.error e, s)

/-! A service may go on with empty pages for ever, so the functions that ask for pages until there is
something, or until there are no more, are told how many they may ask for. A listing ends there as
if there were no more pages. -/

/-- More pages than any service has. -/
def pageLimit : Nat := 2 ^ 64

/-- The next entry, from the buffer or else from the first page that is not empty. The pages may come
from anywhere. -/
def nextFrom (pages : ListOptions → Action σ ListPage) :
    (limit : Nat) → ListCursor → σ → (Except Error (Option ListEntry) × ListCursor) × σ
  | limit, c, s =>
    match c.buffered with
    | entry :: rest => ((.ok (some entry), { c with buffered := rest }), s)
    | [] =>
      if c.exhausted then ((.ok none, c), s)
      else
        match limit with
        | 0 => ((.ok none, c), s)
        | limit + 1 =>
          match pages c.options s with
          | (.ok page, s) => nextFrom pages limit (c.accept page) s
          | (.error e, s) => ((.error e, c), s)

/-- The next entry of a listing of the bucket. -/
def next (b : Bucket σ) (adjust : Adjust ListQuery) :
    (limit : Nat) → ListCursor → σ → (Except Error (Option ListEntry) × ListCursor) × σ :=
  nextFrom fun options => b.listPage options adjust

/-- Goes through all entries that are left, in order, with a value that each step changes. A page is
asked for when those before it are done with, and the value that was reached is kept when that
fails. -/
def fold {τ : Type} (b : Bucket σ) (adjust : Adjust ListQuery) (step : τ → ListEntry → StateM σ τ) :
    (limit : Nat) → ListCursor → τ → σ → (Except Error Unit × τ) × σ
  | limit, c, t, s =>
    let (t, s) := c.buffered.foldlM step t s
    if c.exhausted then ((.ok (), t), s)
    else
      match limit with
      | 0 => ((.ok (), t), s)
      | limit + 1 =>
        match c.fetch b adjust s with
        | (.ok c, s) => fold b adjust step limit c t s
        | (.error e, s) => ((.error e, t), s)

def collect (b : Bucket σ) (adjust : Adjust ListQuery) :
    (limit : Nat) → ListCursor → σ → Except Error (List ListEntry) × σ
  | limit, c, s =>
    if c.exhausted then (.ok c.buffered, s)
    else
      match limit with
      | 0 => (.ok c.buffered, s)
      | limit + 1 =>
        match c.fetch b adjust s with
        | (.error e, s) => (.error e, s)
        | (.ok after, s) =>
          match collect b adjust limit after s with
          | (.ok entries, s) => (.ok (c.buffered ++ entries), s)
          | (.error e, s) => (.error e, s)

end ListCursor

end BlobStore
