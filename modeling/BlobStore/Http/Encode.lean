import BlobStore.Http.Endpoint
import BlobStore.Http.Message
import BlobStore.Xml.Text
import BlobStore.Service

/-!
# Requests as calls

The form in which a request goes over the network. A request with a blank name, with a character that
cannot stand in a header field, or with an address that is too long, has no such form.
-/

namespace BlobStore.Http

def queryPair (name value : String) : String := name ++ "=" ++ Endpoint.encodePart value

private def optionalPair (name : String) (value : Option String) : List String :=
  (value.map (queryPair name)).toList

private def optionalHeader (name : String) (value : Option String) : List (String × String) :=
  (value.map fun v => (name, v)).toList

def metadataStem : String := "x-amz-meta-"

/-- The header fields for what is stored with an object. -/
def objectHeaders (h : Headers) : List (String × String) :=
  optionalHeader "content-type" h.contentType ++
  optionalHeader "cache-control" h.cacheControl ++
  optionalHeader "content-disposition" h.contentDisposition ++
  optionalHeader "content-encoding" h.contentEncoding ++
  optionalHeader "content-language" h.contentLanguage ++
  optionalHeader "x-amz-storage-class" h.storageClass ++
  ((h.metadata.map (·.entries)).getD []).map fun e => (metadataStem ++ Text.lowercase e.1, e.2)

/-- The header fields of a body; its type is only told if no other is. -/
def bodyHeaders (contentType : String) (body : Body) (headers : List (String × String)) :
    List (String × String) :=
  let type := if headers.any (·.1 = "content-type") then [] else [("content-type", contentType)]
  optionalHeader "content-length" (body.contentLength.map toString) ++ type ++ headers

/-- The query of a download. -/
def downloadQuery (q : GetQuery) : List String :=
  "x-id=GetObject" :: optionalPair "versionId" q.versionId ++
    optionalPair "partNumber" (q.partNumber.map toString) ++
    optionalPair "response-content-type" q.responseContentType

def listQuery (q : ListQuery) : List String :=
  "list-type=2" :: optionalPair "max-keys" (q.maxKeys.map toString) ++
    optionalPair "prefix" q.stem ++ optionalPair "delimiter" q.delimiter ++
    optionalPair "continuation-token" q.continuationToken ++ optionalPair "start-after" q.startAfter

def completionBody (parts : List PartReceipt) : String :=
  let part (p : PartReceipt) : String :=
    Xml.tag "Part" (((p.etag.map fun t => Xml.tag "ETag" (Xml.escapeText t)).getD "") ++
      Xml.tag "PartNumber" (toString p.number))
  "<CompleteMultipartUpload xmlns=\"http://s3.amazonaws.com/doc/2006-03-01/\">" ++
    String.join (parts.map part) ++ "</CompleteMultipartUpload>"

/-- Something without a character that shows has no name. -/
def isName (s : String) : Bool := s.toList.any (!Text.isBlank ·)

def objectCall (e : Endpoint) (method : String) (a : Address) (query : List String)
    (headers : List (String × String)) (body : ByteArray) : Option Call := do
  if !isName a.bucket ∨ !isName a.key then none
  let uri ← e.bucketUri? a.bucket
  some { method, url := uri.below (Endpoint.encodeKey a.key), query, headers, body }

def bucketCall (e : Endpoint) (method bucket : String) (query : List String) : Option Call := do
  if !isName bucket then none
  some ⟨method, (← e.bucketUri? bucket).below "", query, [], ByteArray.empty⟩

/-- The call that opens a session, for buckets that need one. -/
def sessionCall? (e : Endpoint) (bucket : String) : Option Call :=
  if Endpoint.isDirectory bucket then bucketCall e "GET" bucket ["session"] else none

/-- Whether the address and all header fields of a call can be written. -/
def Call.isWritable (c : Call) : Bool :=
  c.address.utf8ByteSize ≤ Uri.maxSize &&
    c.headers.all fun h => h.1.toList.all isTokenCharacter && isFieldValue h.2

/-- A part of an upload is named by the upload, which must have a name. -/
private def uploadPair? (uploadId : String) : Option String :=
  if uploadId.isEmpty then none else some (queryPair "uploadId" uploadId)

/-- The call for a request. Signing makes no call. -/
def call? (e : Endpoint) (r : Request) : Option Call :=
  let built : Option Call := match r with
    | .head a => objectCall e "HEAD" a [] [] ByteArray.empty
    | .get q =>
      objectCall e "GET" q.address (downloadQuery q)
        (optionalHeader "range" q.range ++ optionalHeader "if-match" q.ifMatch) ByteArray.empty
    | .list q => bucketCall e "GET" q.bucket (listQuery q)
    | .delete a => objectCall e "DELETE" a ["x-id=DeleteObject"] [] ByteArray.empty
    | .put o body =>
      objectCall e "PUT" o.address ["x-id=PutObject"]
        (bodyHeaders "application/octet-stream" body
          (optionalHeader "content-md5" o.contentMd5 ++ objectHeaders o.headers)) body.bytes
    | .createUpload a h => objectCall e "POST" a ["uploads"] (objectHeaders h) ByteArray.empty
    | .uploadPart a uploadId number body => do
      objectCall e "PUT" a ["x-id=UploadPart", queryPair "partNumber" (toString number), ← uploadPair? uploadId]
        (bodyHeaders "application/octet-stream" body []) body.bytes
    | .completeUpload a uploadId parts => do
      let body := Body.ofBytes (completionBody parts.toList).toUTF8
      objectCall e "POST" a [← uploadPair? uploadId] (bodyHeaders "application/xml" body []) body.bytes
    | .abortUpload a uploadId => do
      objectCall e "DELETE" a ["x-id=AbortMultipartUpload", ← uploadPair? uploadId] [] ByteArray.empty
    | .presign _ _ => none
  built.filter Call.isWritable

/-- The URL that allows a download until it expires, without the parts that depend on the time of
signing and on who signs. It carries the token of the session, if there is one. -/
def signedUrl? (e : Endpoint) (q : GetQuery) (expiry : Duration) (token : Option String) : Option String :=
  let query := downloadQuery q ++
    ["X-Amz-Algorithm=AWS4-HMAC-SHA256", queryPair "X-Amz-Expires" (toString expiry.wholeSeconds),
      "X-Amz-SignedHeaders=host"] ++
    optionalPair "X-Amz-S3session-Token" token
  ((objectCall e "GET" q.address query [] ByteArray.empty).filter Call.isWritable).map Call.address

end BlobStore.Http
