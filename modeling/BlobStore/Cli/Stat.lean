import BlobStore.Cli.Desk
import BlobStore.Size
import BlobStore.Time.Reading

/-!
# Attributes of an object

The command that shows what the service tells about an object. The time is kept as text, and read
again for the line that people get.
-/

namespace BlobStore.Cli.Stat

structure Report where
  name : String
  size : Nat
  modified : Option String
  md5 : Option String
  contentType : Option String
  cacheControl : Option String
  contentDisposition : Option String
  contentEncoding : Option String
  contentLanguage : Option String
  metadata : Metadata

def Report.of (name : String) (a : Attributes) : Report :=
  { name
    size := a.size
    modified := a.modified.map (·.text)
    md5 := a.md5.map Bytes.Hex.encode
    contentType := a.contentType
    cacheControl := a.cacheControl
    contentDisposition := a.contentDisposition
    contentEncoding := a.contentEncoding
    contentLanguage := a.contentLanguage
    metadata := a.metadata }

def Report.json (r : Report) : Json.Value :=
  let metadata : List (String × Json.Value) := r.metadata.entries.map fun e => (e.1, .string e.2)
  .object <|
    [("name", .string r.name), ("size_bytes", .number r.size),
      ("size_human", .string (Size.human r.size))] ++
    Json.optional "last_modified" r.modified .string ++
    Json.optional "md5" r.md5 .string ++
    Json.optional "content_type" r.contentType .string ++
    Json.optional "cache_control" r.cacheControl .string ++
    Json.optional "content_disposition" r.contentDisposition .string ++
    Json.optional "content_encoding" r.contentEncoding .string ++
    Json.optional "content_language" r.contentLanguage .string ++
    (if metadata.isEmpty then [] else [("metadata", .object metadata)])

/-- The line with the time; blank when the time is unknown. -/
def Report.dateLine (r : Report) : String :=
  "Date      : " ++ Time.columnOf (r.modified.bind fun text => Time.Instant.read? text.toList)

def Report.lines (r : Report) : List String :=
  let optional (label : String) (value : Option String) : List String :=
    (value.map fun v => label ++ ": " ++ v).toList
  ["Name      : " ++ r.name, r.dateLine, s!"Size      : {Size.human r.size} ({r.size} bytes)"] ++
    optional "MD5       " r.md5 ++
    optional "Type      " r.contentType ++
    optional "Cache     " r.cacheControl ++
    optional "Disposition" r.contentDisposition ++
    optional "Encoding  " r.contentEncoding ++
    optional "Language  " r.contentLanguage ++
    (if r.metadata.isEmpty then []
     else "Metadata  :" :: r.metadata.entries.map fun e => s!"  {e.1}: {e.2}")

def Report.print (style : Style) (r : Report) (t : Terminal) : Terminal :=
  if style.json then t.document r.json else r.lines.foldl (fun t line => style.line line t) t

variable {σ : Type}

def execute (s : Setting σ) (style : Style) (path : String) : Step σ ExitStatus := do
  let (target, bucket) ← resolveObject s style path
  let attributes ← Step.attempt style s!"Failed to stat '{path}'" (bucket.attributes target.key)
  Step.display (Report.print style (.of target.key attributes))
  return .success

end BlobStore.Cli.Stat
