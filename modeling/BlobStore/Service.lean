import BlobStore.Duration
import BlobStore.Fault
import BlobStore.KeyMap
import BlobStore.Time.Moment

/-!
# The object service

The requests that the library makes of an object service and the answers they get. A service is a
function from a request and the state of the service to an answer and the next state, so every
operation of the library runs against any service at all.
-/

namespace BlobStore

/-- User-defined names and values stored with an object. -/
abbrev Metadata := KeyMap String

/-- The name of an object. -/
structure Address where
  bucket : String
  key : String
  deriving DecidableEq, Repr

/-- What is stored with the bytes of an object. -/
structure Headers where
  contentType : Option String
  cacheControl : Option String
  contentDisposition : Option String
  contentEncoding : Option String
  contentLanguage : Option String
  metadata : Option Metadata
  storageClass : Option String
  deriving DecidableEq

def Headers.none : Headers :=
  ⟨Option.none, Option.none, Option.none, Option.none, Option.none, Option.none, Option.none⟩

/-- An object about to be stored. The digest covers the whole body, so it goes only with a body
that is sent in one piece. -/
structure NewObject where
  address : Address
  headers : Headers
  contentMd5 : Option String
  deriving DecidableEq

structure GetQuery where
  address : Address
  range : Option String
  versionId : Option String
  ifMatch : Option String
  responseContentType : Option String
  partNumber : Option Int
  deriving DecidableEq

def GetQuery.whole (address : Address) : GetQuery := ⟨address, none, none, none, none, none⟩

structure ListQuery where
  bucket : String
  /-- Listed keys start with this. -/
  stem : Option String
  /-- Keys are grouped up to the first delimiter after the stem. -/
  delimiter : Option String
  maxKeys : Option Int
  continuationToken : Option String
  startAfter : Option String
  deriving DecidableEq

/-- A part that has been sent, with the tag that the service gave it. -/
structure PartReceipt where
  number : Nat
  etag : Option String
  deriving DecidableEq

/-- The bytes sent with a request, and the length that is told of them. -/
structure Body where
  bytes : ByteArray
  contentLength : Option Int
  deriving DecidableEq

def Body.ofBytes (bytes : ByteArray) : Body := ⟨bytes, some bytes.size⟩

@[simp] theorem Body.bytes_ofBytes (bytes : ByteArray) : (ofBytes bytes).bytes = bytes := rfl

inductive Request where
  | head (address : Address)
  | get (query : GetQuery)
  | list (query : ListQuery)
  | delete (address : Address)
  | put (object : NewObject) (body : Body)
  | createUpload (address : Address) (headers : Headers)
  | uploadPart (address : Address) (uploadId : String) (number : Nat) (body : Body)
  | completeUpload (address : Address) (uploadId : String) (parts : Array PartReceipt)
  | abortUpload (address : Address) (uploadId : String)
  | presign (query : GetQuery) (expiry : Duration)
  deriving DecidableEq

/-- The name of the operation in the protocol of the service. -/
def Request.operation : Request → String
  | .head _ => "HeadObject"
  | .get _ => "GetObject"
  | .list _ => "ListObjectsV2"
  | .delete _ => "DeleteObject"
  | .put _ _ => "PutObject"
  | .createUpload _ _ => "CreateMultipartUpload"
  | .uploadPart _ _ _ _ => "UploadPart"
  | .completeUpload _ _ _ => "CompleteMultipartUpload"
  | .abortUpload _ _ => "AbortMultipartUpload"
  | .presign _ _ => "PresignGetObject"

def Request.bucket : Request → String
  | .head address => address.bucket
  | .get query => query.address.bucket
  | .list query => query.bucket
  | .delete address => address.bucket
  | .put object _ => object.address.bucket
  | .createUpload address _ => address.bucket
  | .uploadPart address _ _ _ => address.bucket
  | .completeUpload address _ _ => address.bucket
  | .abortUpload address _ => address.bucket
  | .presign query _ => query.address.bucket

def Request.key? : Request → Option String
  | .head address => some address.key
  | .get query => some query.address.key
  | .list _ => none
  | .delete address => some address.key
  | .put object _ => some object.address.key
  | .createUpload address _ => some address.key
  | .uploadPart address _ _ _ => some address.key
  | .completeUpload address _ _ => some address.key
  | .abortUpload address _ => some address.key
  | .presign query _ => some query.address.key

structure Head where
  contentLength : Option Int
  contentType : Option String
  cacheControl : Option String
  contentDisposition : Option String
  contentEncoding : Option String
  contentLanguage : Option String
  metadata : Option Metadata
  lastModified : Option Moment
  etag : Option String
  deriving DecidableEq

structure Download where
  contentLength : Option Int
  contentRange : Option String
  contentType : Option String
  lastModified : Option Moment
  etag : Option String
  body : ByteArray
  /-- The body has the length that the service told. -/
  isWhole : Bool
  deriving DecidableEq

structure ListedObject where
  key : Option String
  size : Option Int
  etag : Option String
  lastModified : Option Moment
  deriving DecidableEq

/-- Objects and common starts of keys come in two lists. -/
structure Listed where
  contents : Option (List ListedObject)
  stems : Option (List (Option String))
  nextToken : Option String
  deriving DecidableEq

/-- What a request is answered with. -/
def Request.Reply : Request → Type
  | .head _ => Head
  | .get _ => Download
  | .list _ => Listed
  | .delete _ => Unit
  | .put _ _ => Unit
  | .createUpload _ _ => Option String
  | .uploadPart _ _ _ _ => Option String
  | .completeUpload _ _ _ => Unit
  | .abortUpload _ _ => Unit
  | .presign _ _ => String

abbrev Answer (r : Request) := Except Fault r.Reply

/-- How a service with states of type `σ` answers. -/
abbrev Service (σ : Type) := (r : Request) → σ → Answer r × σ

end BlobStore
