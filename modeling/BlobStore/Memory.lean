import BlobStore.Bytes.Fingerprint
import BlobStore.Service
import BlobStore.Text.Cut
import BlobStore.Text.Numeral

/-!
# A service in memory

Objects and unfinished uploads as values. Reads may ask for a range of bytes, listings group keys
and come in pages, and an upload in parts becomes an object when it is completed.
-/

namespace BlobStore

structure StoredObject where
  data : ByteArray
  etag : String
  headers : Headers
  contentMd5 : Option String
  deriving DecidableEq

/-- An upload that has been started and not yet completed. Of two parts with one number the later
stands first. -/
structure PendingUpload where
  key : String
  headers : Headers
  parts : List (Nat × ByteArray)
  deriving DecidableEq

structure Memory where
  objects : KeyMap StoredObject
  uploads : KeyMap PendingUpload
  /-- How many uploads have been started. -/
  started : Nat
  deriving DecidableEq

namespace Memory

def empty : Memory := ⟨∅, ∅, 0⟩

/-- Everything was last modified at this time. -/
def clock : Moment := ⟨1700000000, 0⟩

private def contentTag (data : ByteArray) : String :=
  Text.hexPadded 16 (Bytes.fingerprint data).toNat ++ Text.hexPadded 16 data.size

def wholeTag (data : ByteArray) : String := "\"" ++ contentTag data ++ "\""

def partedTag (data : ByteArray) (parts : Nat) : String :=
  "\"" ++ contentTag data ++ "-" ++ toString parts ++ "\""

def partTag (number : Nat) : String := "\"part-" ++ toString number ++ "\""

def uploadName (n : Nat) : String := "upload-" ++ toString n

def notFound : Fault := .service "NotFound" (some "Not Found")

def noSuchKey : Fault := .service "NoSuchKey" (some "The specified key does not exist.")

def noSuchUpload : Fault := .service "NoSuchUpload" (some "The specified upload does not exist.")

def invalidRange : Fault := .service "InvalidRange" (some "The requested range is not satisfiable")

def invalidToken : Fault :=
  .service "InvalidArgument" (some "The continuation token provided is incorrect")

def missingPart (number : Nat) : Fault := .service "InvalidPart" (some s!"part {number} missing")

/-- The first and the last byte that `bytes=<first>-[<last>]` asks of an object of `size` bytes. -/
def readRange? (range : String) (size : Nat) : Option (Nat × Nat) := do
  let spec ← "bytes=".toList.isPrefixOf? range.toList
  let (first, last) ← Text.cutAt '-' spec
  let first ← Text.readBounded? Text.maxWord first
  if size ≤ first then none
  if last.isEmpty then some (first, size - 1)
  else
    let last ← Text.readBounded? Text.maxWord last
    some (first, min last (size - 1))

def head (m : Memory) (key : String) : Except Fault Head :=
  match m.objects.get? key with
  | none => .error notFound
  | some o => .ok
      { contentLength := some o.data.size
        contentType := o.headers.contentType
        cacheControl := o.headers.cacheControl
        contentDisposition := o.headers.contentDisposition
        contentEncoding := o.headers.contentEncoding
        contentLanguage := o.headers.contentLanguage
        metadata := o.headers.metadata
        lastModified := some clock
        etag := some o.etag }

def get (m : Memory) (key : String) (range : Option String) : Except Fault Download :=
  match m.objects.get? key with
  | none => .error noSuchKey
  | some o =>
    let answer (contentRange : Option String) (data : ByteArray) : Download :=
      { contentLength := some data.size, contentRange, contentType := o.headers.contentType,
        lastModified := some clock, etag := some o.etag, body := data, isWhole := true }
    match range with
    | none => .ok (answer none o.data)
    | some range =>
      match readRange? range o.data.size with
      | none => .error invalidRange
      | some (first, last) =>
        .ok (answer (some s!"bytes {first}-{last}/{o.data.size}") (o.data.extract first (last + 1)))

/-- A row of a listing: an object, or the common start of some keys. -/
structure Row where
  name : String
  isGroup : Bool
  deriving DecidableEq, Repr

/-- The row that a key is listed under, if it starts with the stem. -/
def rowOf? (stem : List Char) (delimiter : Option (List Char)) (key : String) : Option Row := do
  let rest ← stem.isPrefixOf? key.toList
  match delimiter.bind (Text.cutAtWord · rest) with
  | some (left, _) =>
    some ⟨String.ofList (stem ++ left ++ delimiter.getD []), true⟩
  | none => some ⟨key, false⟩

/-- Leaves one of each run of equal rows. -/
def dropRepeats : List Row → List Row
  | a :: b :: rest => if a = b then dropRepeats (b :: rest) else a :: dropRepeats (b :: rest)
  | rows => rows

/-- All rows of a listing, in the order of their names. -/
def rows (m : Memory) (stem : String) (delimiter : Option String) : List Row :=
  let found := m.objects.keys.filterMap (rowOf? stem.toList (delimiter.map String.toList))
  dropRepeats (found.mergeSort fun a b => decide (a.name ≤ b.name))

def listedObject? (m : Memory) (row : Row) : Option ListedObject :=
  if row.isGroup then none
  else (m.objects.get? row.name).map fun o =>
    { key := some row.name, size := some o.data.size, etag := some o.etag, lastModified := some clock }

/-- One page of a listing. While rows are left over, the token is the name of the page's last. -/
def list (m : Memory) (q : ListQuery) : Except Fault Listed :=
  if q.continuationToken = some "" then .error invalidToken
  else
    let all : List Row := m.rows (q.stem.getD "") (q.delimiter.filter (!·.isEmpty))
    let remaining : List Row := match q.continuationToken with
      | some token => all.filter fun row => decide (token < row.name)
      | none => all
    let limit := (max (q.maxKeys.getD 1000) 1).toNat
    let page := remaining.take limit
    let contents := page.filterMap m.listedObject?
    let groups := (page.filter (·.isGroup)).map fun row => some row.name
    .ok
      { contents := if contents.isEmpty then none else some contents
        stems := if groups.isEmpty then none else some groups
        nextToken := if limit < remaining.length then page.getLast?.map (·.name) else none }

def put (m : Memory) (object : NewObject) (body : ByteArray) : Memory :=
  let stored : StoredObject :=
    { data := body, etag := wholeTag body, headers := object.headers, contentMd5 := object.contentMd5 }
  { m with objects := m.objects.insert object.address.key stored }

def createUpload (m : Memory) (key : String) (headers : Headers) : String × Memory :=
  let started := m.started + 1
  let upload : PendingUpload := { key, headers, parts := [] }
  (uploadName started, { m with started, uploads := m.uploads.insert (uploadName started) upload })

def uploadPart (m : Memory) (uploadId : String) (number : Nat) (body : ByteArray) :
    Except Fault (Option String) × Memory :=
  match m.uploads.get? uploadId with
  | none => (.error noSuchUpload, m)
  | some u =>
    let u := { u with parts := (number, body) :: u.parts }
    (.ok (some (partTag number)), { m with uploads := m.uploads.insert uploadId u })

/-- The bytes of the listed parts, one after the other. -/
def joinParts (parts : List (Nat × ByteArray)) (listed : List PartReceipt) : Except Fault ByteArray :=
  listed.foldlM (fun data receipt =>
    match parts.lookup receipt.number with
    | some bytes => .ok (data ++ bytes)
    | none => .error (missingPart receipt.number)) ByteArray.empty

/-- The upload is gone even if one of the listed parts is missing. -/
def completeUpload (m : Memory) (uploadId : String) (listed : List PartReceipt) :
    Except Fault Unit × Memory :=
  match m.uploads.get? uploadId with
  | none => (.error noSuchUpload, m)
  | some u =>
    let m := { m with uploads := m.uploads.erase uploadId }
    match joinParts u.parts listed with
    | .error e => (.error e, m)
    | .ok data =>
      let object : StoredObject :=
        { data, etag := partedTag data listed.length, headers := u.headers, contentMd5 := none }
      (.ok (), { m with objects := m.objects.insert u.key object })

def presign (query : GetQuery) (expiry : Duration) : String :=
  s!"https://{query.address.bucket}.s3.memory/{query.address.key}?X-Amz-Expires={expiry.wholeSeconds}"

def serve : Service Memory
  | .head address, m => (m.head address.key, m)
  | .get query, m => (m.get query.address.key query.range, m)
  | .list query, m => (m.list query, m)
  | .delete address, m => (.ok (), { m with objects := m.objects.erase address.key })
  | .put object body, m => (.ok (), m.put object body.bytes)
  | .createUpload address headers, m =>
    let (uploadId, m) := m.createUpload address.key headers
    (.ok (some uploadId), m)
  | .uploadPart _ uploadId number body, m => m.uploadPart uploadId number body.bytes
  | .completeUpload _ uploadId parts, m => m.completeUpload uploadId parts.toList
  | .abortUpload _ uploadId, m => (.ok (), { m with uploads := m.uploads.erase uploadId })
  | .presign query expiry, m => (.ok (presign query expiry), m)

end Memory

end BlobStore
