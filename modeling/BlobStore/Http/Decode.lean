import BlobStore.Http.Encode
import BlobStore.Http.Fields
import BlobStore.Xml.Content

/-!
# Replies as answers

What a reply means for the request it answers. A reply that does not have the expected form counts
as unreadable; an error is described in the body, also when the status says success.
-/

namespace BlobStore.Http

def Reply.document? (r : Reply) : Option String := String.fromUTF8? r.body

/-! ## Errors -/

def Reply.holdsError (r : Reply) : Bool :=
  (r.document?.bind Xml.rootName?).any (·.localName = "Error")

/-- The codes that are peculiar to an operation. -/
def peculiarCodes : Request → List String
  | .head _ => ["NotFound"]
  | .get _ => ["NoSuchKey", "InvalidObjectState"]
  | .list _ => ["NoSuchBucket"]
  | .put _ _ => ["EncryptionTypeMismatch", "InvalidRequest", "InvalidWriteOffset", "TooManyParts"]
  | .abortUpload _ _ => ["NoSuchUpload"]
  | _ => []

/-- What else is described with a code that is peculiar to an operation. -/
def detailFields (code : String) : List (String × Xml.Shape) :=
  if code = "InvalidObjectState" then [("StorageClass", .data), ("AccessTier", .data)] else []

/-- Whether the description of an error with a code is what the operation expects. An operation with
codes of its own expects a code, and a proper form with those. -/
def isExpected (r : Request) (reply : Reply) (document : String) : Option String → Bool
  | none => (peculiarCodes r).isEmpty
  | some code =>
    !(peculiarCodes r).contains code ||
      reply.holdsError && (Xml.read? (detailFields code) document).isSome

/-- The failure that a reply tells of. -/
def failureOf (r : Request) (reply : Reply) : ExchangeFailure :=
  let described? : Option (Option String × Option String) := do
    let document ← reply.document?
    let content ← Xml.read? [("Code", .data), ("Message", .data)] document
    let code := content.text? "Code"
    if isExpected r reply document code then some (code, content.text? "Message") else none
  let (code, message) := described?.getD (none, none)
  .refused reply.status code message

/-! ## Header fields -/

private def encryptionFields : List (String × FieldKind) :=
  [("x-amz-server-side-encryption", .text), ("x-amz-server-side-encryption-aws-kms-key-id", .text),
    ("x-amz-server-side-encryption-bucket-key-enabled", .truth)]

private def customerKeyFields : List (String × FieldKind) :=
  [("x-amz-server-side-encryption-customer-algorithm", .text),
    ("x-amz-server-side-encryption-customer-key-md5", .text)]

private def checksumFields : List (String × FieldKind) :=
  [("x-amz-checksum-crc32", .text), ("x-amz-checksum-crc32c", .text),
    ("x-amz-checksum-crc64nvme", .text), ("x-amz-checksum-sha1", .text),
    ("x-amz-checksum-sha256", .text)]

private def chargeFields : List (String × FieldKind) := [("x-amz-request-charged", .text)]

/-- The fields that tell of an object. -/
private def objectFields : List (String × FieldKind) :=
  [("accept-ranges", .text), ("cache-control", .text), ("content-disposition", .text),
    ("content-encoding", .text), ("content-language", .text), ("content-length", .integer 63),
    ("content-range", .text), ("content-type", .text), ("etag", .text), ("expires", .expiry),
    ("last-modified", .date), ("x-amz-checksum-type", .text), ("x-amz-delete-marker", .truth),
    ("x-amz-expiration", .text), ("x-amz-missing-meta", .integer 31),
    ("x-amz-mp-parts-count", .integer 31), ("x-amz-object-lock-legal-hold", .text),
    ("x-amz-object-lock-mode", .text), ("x-amz-object-lock-retain-until-date", .timestamp),
    ("x-amz-replication-status", .text), ("x-amz-restore", .text), ("x-amz-storage-class", .text),
    ("x-amz-tagging-count", .integer 31), ("x-amz-version-id", .text),
    ("x-amz-website-redirect-location", .text)] ++
    encryptionFields ++ customerKeyFields ++ checksumFields ++ chargeFields

/-- The fields that are read of the reply to a request. -/
def replyFields : Request → List (String × FieldKind)
  | .head _ => ("x-amz-archive-status", .text) :: objectFields
  | .get _ => objectFields
  | .list _ => chargeFields
  | .delete _ => [("x-amz-delete-marker", .truth), ("x-amz-version-id", .text)] ++ chargeFields
  | .put _ _ =>
    [("etag", .text), ("x-amz-checksum-type", .text), ("x-amz-expiration", .text),
      ("x-amz-object-size", .integer 63), ("x-amz-server-side-encryption-context", .text),
      ("x-amz-version-id", .text)] ++
      encryptionFields ++ customerKeyFields ++ checksumFields ++ chargeFields
  | .createUpload _ _ =>
    [("x-amz-abort-date", .date), ("x-amz-abort-rule-id", .text),
      ("x-amz-checksum-algorithm", .text), ("x-amz-checksum-type", .text),
      ("x-amz-server-side-encryption-context", .text)] ++
      encryptionFields ++ customerKeyFields ++ chargeFields
  | .uploadPart _ _ _ _ =>
    ("etag", .text) :: encryptionFields ++ customerKeyFields ++ checksumFields ++ chargeFields
  | .completeUpload _ _ _ =>
    [("x-amz-expiration", .text), ("x-amz-version-id", .text)] ++ encryptionFields ++ chargeFields
  | .abortUpload _ _ => chargeFields
  | .presign _ _ => []

private def metadata? (r : Reply) : Finding Metadata :=
  (r.textsBelow metadataStem).map fun entries =>
    if entries.isEmpty then none else some (KeyMap.ofList entries)

/-- Whether the body has the length that a header field tells. A field that holds no number is passed
over. -/
def Reply.isWhole (r : Reply) : Bool :=
  match r.values "content-length" with
  | [text] => (Text.readBounded? Text.maxWord text.toList).all (· = r.body.size)
  | _ => true

def head? (r : Reply) : Option Head := do
  some
    { contentLength := r.integer? "content-length"
      contentType := r.text? "content-type"
      cacheControl := r.text? "cache-control"
      contentDisposition := r.text? "content-disposition"
      contentEncoding := r.text? "content-encoding"
      contentLanguage := r.text? "content-language"
      metadata := ← metadata? r
      lastModified := r.date? "last-modified"
      etag := r.text? "etag" }

def download? (r : Reply) : Option Download := do
  let _ ← metadata? r
  some
    { contentLength := r.integer? "content-length"
      contentRange := r.text? "content-range"
      contentType := r.text? "content-type"
      lastModified := r.date? "last-modified"
      etag := r.text? "etag"
      body := r.body
      isWhole := r.isWhole }

/-! ## Bodies -/

/-- What a record in the body holds, whose element must have the given name. -/
private def record? (r : Reply) (name : String) (fields : List (String × Xml.Shape)) :
    Option Xml.Content := do
  let document ← r.document?
  if (Xml.rootName? document).any (·.localName = name) then Xml.read? fields document else none

private def textFields (names : List String) : List (String × Xml.Shape) := names.map (·, .data)

/-- The last of the fields of a name, each of which must pass a reader. -/
private def lastField {α : Type} (c : Xml.Content) (name : String) (read : String → Option α) :
    Finding α :=
  ((c.texts name).mapM read).map List.getLast?

private def signed? (bits : Nat) (text : String) : Option Int := Text.readSigned? bits text.toList

private def time? (text : String) : Option Moment := Time.readTimestamp? text.toList

private def yesOrNo? (text : String) : Option Bool := truth? text.toList

private def objectShape : Xml.Shape :=
  .record
    (textFields ["Key", "Size", "ETag", "LastModified", "StorageClass", "ChecksumAlgorithm",
      "ChecksumType"] ++
    [("Owner", .record (textFields ["DisplayName", "ID"])),
      ("RestoreStatus", .record (textFields ["IsRestoreInProgress", "RestoreExpiryDate"]))])

private def listingFields : List (String × Xml.Shape) :=
  textFields ["Prefix", "IsTruncated", "Name", "Delimiter", "MaxKeys", "EncodingType", "KeyCount",
    "ContinuationToken", "NextContinuationToken", "StartAfter"] ++
  [("Contents", objectShape), ("CommonPrefixes", .record (textFields ["Prefix"]))]

/-- Whether what is told about the restoring of an object can be read. -/
private def isReadableRestore (c : Xml.Content) : Bool :=
  (lastField c "IsRestoreInProgress" yesOrNo?).isSome && (lastField c "RestoreExpiryDate" time?).isSome

private def listedObject? (c : Xml.Content) : Option ListedObject := do
  if !(c.all "RestoreStatus").all isReadableRestore then none
  some
    { key := c.text? "Key"
      size := ← lastField c "Size" (signed? 63)
      etag := c.text? "ETag"
      lastModified := ← lastField c "LastModified" time? }

def listed? (r : Reply) : Option Listed := do
  let root ← record? r "ListBucketResult" listingFields
  let _ ← lastField root "KeyCount" (signed? 31)
  let _ ← lastField root "MaxKeys" (signed? 31)
  let _ ← lastField root "IsTruncated" yesOrNo?
  let contents ← (root.all "Contents").mapM listedObject?
  let stems := (root.all "CommonPrefixes").map (·.text? "Prefix")
  some
    { contents := if contents.isEmpty then none else some contents
      stems := if stems.isEmpty then none else some stems
      nextToken := root.text? "NextContinuationToken" }

private def begunFields : List (String × Xml.Shape) := textFields ["Bucket", "Key", "UploadId"]

private def completedFields : List (String × Xml.Shape) :=
  textFields ["Location", "Bucket", "Key", "ETag", "ChecksumCRC32", "ChecksumCRC32C",
    "ChecksumCRC64NVME", "ChecksumSHA1", "ChecksumSHA256", "ChecksumType"]

/-! ## Answers -/

/-- Reads the reply to a request that went well, apart from its header fields. -/
private def content? (r : Request) (reply : Reply) : Option r.Reply :=
  match r with
  | .head _ => head? reply
  | .get _ => download? reply
  | .list _ => listed? reply
  | .delete _ => some ()
  | .put _ _ => some ()
  | .createUpload _ _ =>
    (record? reply "InitiateMultipartUploadResult" begunFields).map (·.text? "UploadId")
  | .uploadPart _ _ _ _ => some (reply.text? "etag")
  | .completeUpload _ _ _ =>
    (record? reply "CompleteMultipartUploadResult" completedFields).map fun _ => ()
  | .abortUpload _ _ => some ()
  | .presign _ _ => none

/-- Reads the reply to a request that went well. -/
def reading (r : Request) (reply : Reply) : Option r.Reply :=
  if reply.accepts (replyFields r) then content? r reply else none

/-- The body of a download is read by whoever asked for it, and that of a reply to HEAD is not sent. -/
def needsWholeBody (r : Request) (reply : Reply) : Bool :=
  match r with
  | .get _ => !reply.isSuccess
  | .head _ => false
  | _ => true

/-- The body of a download is not looked at for errors. -/
def isRefusal (r : Request) (reply : Reply) : Bool :=
  match r with
  | .get _ => !reply.isSuccess
  | _ => !reply.isSuccess || reply.holdsError

def answerOf (r : Request) (reply : Reply) : Except ExchangeFailure r.Reply :=
  if needsWholeBody r reply && !reply.isWhole then .error (.unreadable reply.status)
  else if isRefusal r reply then .error (failureOf r reply)
  else
    match reading r reply with
    | some a => .ok a
    | none => .error (.unreadable reply.status)

/-! ## Sessions -/

/-- What the requests about some buckets carry, until it expires. -/
structure Session where
  token : String
  expiry : Moment
  deriving DecidableEq, Repr

private def credentialsShape : Xml.Shape :=
  .record (textFields ["SessionToken", "SecretAccessKey", "AccessKeyId", "Expiration"])

/-- What is not told of a session is blank, and it expires in 1970. -/
private def sessionOf? (c : Xml.Content) : Option Session := do
  let expiry ← lastField c "Expiration" time?
  some ⟨(c.text? "SessionToken").getD "", expiry.getD ⟨0, 0⟩⟩

/-- The session that the reply to a request for one opens. -/
def session? (reply : Reply) : Option Session := do
  let fields := ("x-amz-server-side-encryption-context", .text) :: encryptionFields
  if !reply.isWhole || !reply.isSuccess || reply.holdsError || !reply.accepts fields then none
  let root ← record? reply "CreateSessionResult" [("Credentials", credentialsShape)]
  let sessions ← (root.all "Credentials").mapM sessionOf?
  some (sessions.getLast?.getD ⟨"", ⟨0, 0⟩⟩)

/-- How many seconds before it expires a session is used for the last time. -/
def Session.margin : Int := 10

/-- Whether a session is used at a time. -/
def Session.isOpen (s : Session) (now : Moment) : Bool :=
  now.seconds + margin < s.expiry.seconds ||
    now.seconds + margin = s.expiry.seconds && now.nanos < s.expiry.nanos

end BlobStore.Http
