import BlobStore.Error
import BlobStore.Url.Parser

/-!
# Aliases

Short names for the URLs of buckets, kept in order of their definition.
-/

namespace BlobStore

structure Alias where
  name : String
  url : String
  deriving DecidableEq, Repr

namespace Alias

/-- A name must be there and hold no slash, and the URL must name a bucket. -/
def check (a : Alias) : Except Error Unit :=
  if a.name.isEmpty ∨ a.name.toList.contains '/' then .error (.invalidArgument (.aliasName a.name))
  else
    match Url.parse a.url with
    | .error e => .error (.invalidUrl e)
    | .ok url =>
      if url.host.isEmpty then .error (.invalidArgument (.aliasWithoutBucket a.url)) else .ok ()

def find (aliases : List Alias) (name : String) : Except Error Alias :=
  match aliases.find? (·.name = name) with
  | some a => .ok a
  | none => .error (.aliasNotFound name)

def without (name : String) (aliases : List Alias) : List Alias := aliases.filter (·.name ≠ name)

/-- Defines an alias, in place of earlier ones of its name, as the last. -/
def define (a : Alias) (aliases : List Alias) : List Alias := without a.name aliases ++ [a]

end Alias

end BlobStore
