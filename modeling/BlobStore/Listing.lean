import BlobStore.Attributes
import BlobStore.Error

/-!
# Listings

Pages of objects and of directories, the latter being common starts of keys up to a delimiter, and
the iteration over all pages of a listing.
-/

namespace BlobStore

def defaultPageSize : Nat := 1000

def maxPageSize : Nat := 2 ^ 31 - 1

structure ListOptions where
  /-- Only keys that start with this are listed. -/
  stem : String
  /-- Where keys are cut to make directories; empty for a flat listing. -/
  delimiter : String
  /-- Zero leaves the choice open. -/
  pageSize : Nat
  pageToken : Option ByteArray

/-- An object, or a directory, whose size is then zero. -/
structure ListEntry where
  key : String
  size : Nat
  modified : Option Time.Instant
  md5 : Option ByteArray
  isDir : Bool

structure ListPage where
  entries : List ListEntry
  nextToken : Option ByteArray

namespace ListEntry

def ofObject (o : ListedObject) : ListEntry :=
  { key := o.key.getD ""
    size := reportedSize o.size
    modified := o.lastModified.bind Moment.instant?
    md5 := md5OfTag? o.etag
    isDir := false }

def dir (key : String) : ListEntry :=
  { key, size := 0, modified := none, md5 := none, isDir := true }

end ListEntry

/-- The request for a page. The service takes the token as text. -/
def ListOptions.query (o : ListOptions) (bucket : String) : Except Error ListQuery := do
  let token ← match o.pageToken.filter (!·.isEmpty) with
    | none => pure none
    | some bytes =>
      match String.fromUTF8? bytes with
      | some text => pure (some text)
      | none => throw (.invalidArgument .pageTokenEncoding)
  let some? (s : String) : Option String := if s.isEmpty then none else some s
  return { bucket
           stem := some? o.stem
           delimiter := some? o.delimiter
           maxKeys := some (min (if o.pageSize = 0 then defaultPageSize else o.pageSize) maxPageSize : Nat)
           continuationToken := token
           startAfter := none }

/-- Puts the objects and the named directories of an answer into one page. They are sorted by key
if the answer has some of both, counting directories without a name. -/
def ListPage.ofListed (l : Listed) : ListPage :=
  let contents := l.contents.getD []
  let stems := l.stems.getD []
  let entries := contents.map ListEntry.ofObject ++ (stems.filterMap id).map ListEntry.dir
  let mixed := !contents.isEmpty && !stems.isEmpty
  { entries := if mixed then entries.mergeSort fun a b => decide (a.key ≤ b.key) else entries
    nextToken := (l.nextToken.filter (!·.isEmpty)).map String.toUTF8 }

/-- Goes through a listing page by page. -/
structure ListCursor where
  options : ListOptions
  /-- Entries of the last page that have not been handed out. -/
  buffered : List ListEntry
  exhausted : Bool

namespace ListCursor

def new (options : ListOptions) : ListCursor := ⟨options, [], false⟩

/-- Takes in a page: its token is the one to ask for next. -/
def accept (c : ListCursor) (page : ListPage) : ListCursor :=
  { options := { c.options with pageToken := page.nextToken }
    buffered := page.entries
    exhausted := page.nextToken.isNone }

end ListCursor

end BlobStore
