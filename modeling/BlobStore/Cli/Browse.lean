import BlobStore.Cli.Desk
import BlobStore.Cli.Invocation
import BlobStore.Size

/-!
# Listing

The command that lists the objects and directories below a target: one page, or all of them. A
page that is not the last comes with a token to go on from, which is written in hexadecimal digits.
-/

namespace BlobStore.Cli.Browse

/-- Totals of a listing. The bytes are counted in a word of 64 bits. -/
structure Summary where
  objects : Nat
  directories : Nat
  bytes : UInt64

/-- There is no summary if the program ends over the sum of the bytes. -/
def Summary.of? (b : Build) (entries : List ListEntry) : Option Summary := do
  let files := entries.filter (!·.isDir)
  let bytes ← (files.map (·.size)).foldlM b.add? 0
  return { objects := files.length, directories := (entries.filter (·.isDir)).length, bytes }

/-- What is shown of a listing. -/
structure Report where
  entries : List ListEntry
  /-- The token of the next page. -/
  token : Option String
  summary : Option Summary

def entryFields (e : ListEntry) : List (String × Json.Value) :=
  if e.isDir then [("key", .string e.key), ("is_dir", .bool true)]
  else
    [("key", .string e.key), ("is_dir", .bool false), ("size_bytes", .number e.size),
      ("size_human", .string (Size.human e.size))] ++
    Json.optional "last_modified" e.modified (fun t => .string t.text) ++
    Json.optional "md5" e.md5 (fun digest => .string (Bytes.Hex.encode digest))

def summaryJson (s : Summary) : Json.Value :=
  .object
    [("total_objects", .number s.objects), ("total_dirs", .number s.directories),
      ("total_size_bytes", .number s.bytes.toNat),
      ("total_size_human", .string (Size.human s.bytes.toNat))]

def Report.json (r : Report) : Json.Value :=
  .object <|
    [("items", .array (r.entries.map fun e => .object (entryFields e)))] ++
    Json.optional "next_page_token" r.token .string ++
    Json.optional "summary" r.summary summaryJson

def entryLine (style : Style) (e : ListEntry) : String :=
  if e.isDir then
    Time.columnOf none ++ " " ++ Text.alignRight 10 "PRE" ++ " " ++ style.directory e.key
  else
    Time.columnOf e.modified ++ " " ++ Text.alignRight 10 (Size.human e.size) ++ " " ++ e.key

private def summaryLine (s : Summary) : String :=
  s!"\nTotal: {s.objects} objects, {s.directories} directories, {Size.human s.bytes.toNat}"

def Report.lines (style : Style) (r : Report) : List String :=
  r.entries.map (entryLine style) ++ (r.summary.map summaryLine).toList ++
    (r.token.map fun t => s!"\nMore entries available; continue with --page-token {t}").toList

def Report.print (style : Style) (r : Report) (t : Terminal) : Terminal :=
  if style.json then t.document r.json
  else (r.lines style).foldl (fun t line => style.line line t) t

/-- Reads a token as it is written on a command line. -/
def token? (text : String) : Except Error ByteArray :=
  match Bytes.Hex.decode text with
  | .ok bytes => .ok bytes
  | .error why => .error (.invalidArgument (.pageTokenDigits text why))

/-- How the objects of a target are listed. -/
def options (defaults : Defaults) (a : ListArguments) (target : Target) (token : Option ByteArray) :
    ListOptions :=
  { stem := target.key
    delimiter := if a.recursive then "" else a.delimiter
    pageSize := a.pageSize.getD defaults.pageSize.toNat
    pageToken := token }

variable {σ : Type}

/-- One page with its token, or all pages. -/
def entries (b : Bucket σ) (pageLimit : Nat) (all : Bool) (o : ListOptions) :
    Action σ (List ListEntry × Option String) := fun s =>
  if all then
    match ListCursor.collect b pure pageLimit (.new o) s with
    | (.ok entries, s) => (.ok (entries, none), s)
    | (.error e, s) => (.error e, s)
  else
    match b.listPage o pure s with
    | (.ok page, s) => (.ok (page.entries, page.nextToken.map Bytes.Hex.encode), s)
    | (.error e, s) => (.error e, s)

/-- What is there to see when the program ends over the summary: the lines above it, but nothing of a
document. -/
def cutShort (style : Style) (entries : List ListEntry) (t : Terminal) : Terminal :=
  if style.json then t else Report.print style ⟨entries, none, none⟩ t

def conclude (style : Style) (b : Build) (entries : List ListEntry) (token : Option String)
    (summarize : Bool) : Step σ ExitStatus := do
  if !summarize then
    Step.display (Report.print style ⟨entries, token, none⟩)
    return .success
  match Summary.of? b entries with
  | some summary =>
    Step.display (Report.print style ⟨entries, token, some summary⟩)
    return .success
  | none =>
    Step.display (cutShort style entries)
    throw .panicked

def execute (s : Setting σ) (style : Style) (defaults : Defaults) (a : ListArguments) :
    Step σ ExitStatus := do
  let token ← Step.accept style "Invalid page token" (a.pageToken.mapM token?)
  let (target, bucket) ← resolve s style a.path
  let options := options defaults a target token
  let (entries, next) ←
    Step.attempt style "Failed to list objects" (entries bucket s.pageLimit a.all options)
  conclude style s.build entries next a.summarize

end BlobStore.Cli.Browse
