import BlobStore.Text.Blank
import BlobStore.Text.Cut

/-!
# Messages

Calls and replies of HTTP, as far as the service uses them. Names of header fields are written in
small letters; in a reply they may be written in any way.
-/

namespace BlobStore.Http

structure Call where
  method : String
  /-- The address up to the query. -/
  url : String
  /-- The pairs of the query as they are written. -/
  query : List String
  headers : List (String × String)
  body : ByteArray
  deriving DecidableEq

def Call.address (c : Call) : String :=
  if c.query.isEmpty then c.url else c.url ++ "?" ++ "&".intercalate c.query

structure Reply where
  status : Nat
  headers : List (String × String)
  body : ByteArray
  deriving DecidableEq

/-- Something that takes calls. There may be no reply. -/
abbrev Transport (τ : Type) := Call → τ → Option Reply × τ

/-- Whether a text can be the value of a header field, which holds no control characters. -/
def isFieldValue (text : String) : Bool :=
  text.toList.all fun c => (' ' ≤ c && c ≠ '\x7f') || c = '\t'

/-- What may stand in the name of a header field. -/
def isTokenCharacter (c : Char) : Bool := c.isAlphanum || "!#$%&'*+-.^_\x60|~".toList.contains c

namespace Reply

def isSuccess (r : Reply) : Bool := 200 ≤ r.status && r.status < 300

def values (r : Reply) (name : String) : List String :=
  (r.headers.filter fun h => Text.lowercase h.1 = name).map (·.2)

/-- The values of the header fields whose names start in a given way, by what follows. -/
def valuesBelow (r : Reply) (stem : String) : List (String × String) :=
  r.headers.filterMap fun h =>
    (stem.toList.isPrefixOf? (Text.lowercase h.1).toList).map fun rest => (String.ofList rest, h.2)

end Reply

end BlobStore.Http
