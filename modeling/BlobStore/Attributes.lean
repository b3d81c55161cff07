import BlobStore.Bytes.Hex
import BlobStore.Service
import BlobStore.Text.Blank
import BlobStore.Text.Cut
import BlobStore.Text.Numeral

/-!
# Attributes of objects

What the service reports about an object, brought into one form. Nothing here fails: a tag that is
no digest gives no digest, and a range that cannot be read gives way to the reported length.
-/

namespace BlobStore

def unquoted? (text : List Char) : Option (List Char) :=
  match text with
  | '"' :: rest =>
    match rest.reverse with
    | '"' :: inner => some inner.reverse
    | _ => none
  | _ => none

/-- A tag is the digest of the content if it is made of quoted hexadecimal digits. The tags of
objects stored in parts end in a number of parts and never are. -/
def md5OfTag? (etag : Option String) : Option ByteArray := do
  let digits ← unquoted? (← etag).toList
  if digits.isEmpty then none
  (Bytes.Hex.decode (String.ofList digits)).toOption

/-- A reported size; sizes that lack or are negative count as zero. -/
def reportedSize (size : Option Int) : Nat := (size.getD 0).toNat

/-- The size of the whole object: what follows the slash of a range such as `bytes 10-14/27`, or
else the length of the answer. -/
def wholeSize (contentRange : Option String) (contentLength : Option Int) : Nat :=
  let total := do
    let (_, total) ← Text.cutAt '/' (← contentRange).toList
    Text.readBounded? Text.maxWord (Text.trimBlank total)
  total.getD (reportedSize contentLength)

structure Attributes where
  cacheControl : Option String
  contentDisposition : Option String
  contentEncoding : Option String
  contentLanguage : Option String
  contentType : Option String
  metadata : Metadata
  modified : Option Time.Instant
  size : Nat
  md5 : Option ByteArray

def Attributes.ofHead (h : Head) : Attributes :=
  { cacheControl := h.cacheControl
    contentDisposition := h.contentDisposition
    contentEncoding := h.contentEncoding
    contentLanguage := h.contentLanguage
    contentType := h.contentType
    metadata := h.metadata.getD ∅
    modified := h.lastModified.bind Moment.instant?
    size := reportedSize h.contentLength
    md5 := md5OfTag? h.etag }

end BlobStore
