import BlobStore.Error
import BlobStore.Text.Cut
import BlobStore.Url.Parser

/-!
# Targets

What a command acts on: an object or a common start of keys, named through the URL of a bucket
(`s3://bucket/key?region=us-east-1`) or through an alias (`alias/key`). Keys are taken as they
stand, without percent decoding.
-/

namespace BlobStore

inductive Target where
  /-- The URL of the bucket, without a path, and a key. -/
  | url (bucketUrl key : String)
  | aliased (name key : String)
  deriving DecidableEq, Repr

namespace Target

def key : Target → String
  | .url _ key => key
  | .aliased _ key => key

/-- Whether the key stands for everything below it. -/
def isDir (t : Target) : Bool := t.key.isEmpty || t.key.toList.getLast? = some '/'

def text : Target → String
  | .url bucketUrl key => bucketUrl ++ " " ++ key
  | .aliased name key => name ++ "/" ++ key

def isAliasCharacter (c : Char) : Bool := c.isAlphanum || c = '_' || c = '-' || c = '.'

def isAliasName (name : List Char) : Bool := !name.isEmpty && name.all isAliasCharacter

/-- A target that names a scheme: the query begins at the first question mark, the bucket ends at
the first slash before that. -/
def parseUrl (path : String) (scheme rest : List Char) : Except Error Target :=
  let (location, query) := match Text.cutAt '?' rest with
    | some (location, query) => (location, some query)
    | none => (rest, none)
  let (bucket, key) := (Text.cutAt '/' location).getD (location, [])
  if bucket.isEmpty then .error (.invalidArgument (.noBucket path))
  else
    let tail := (query.map ('?' :: ·)).getD []
    let bucketUrl := String.ofList (scheme ++ "://".toList ++ bucket ++ tail)
    match Url.parse bucketUrl with
    | .error e => .error (.invalidUrl e)
    | .ok _ => .ok (.url bucketUrl (String.ofList key))

def parseAlias (path : String) (text : List Char) : Except Error Target :=
  let (name, key) := (Text.cutAt '/' text).getD (text, [])
  if isAliasName name then .ok (.aliased (String.ofList name) (String.ofList key))
  else .error (.invalidArgument (.malformedPath path))

def parse (path : String) : Except Error Target :=
  if path.isEmpty then .error (.invalidArgument .emptyPath)
  else match Text.cutAtWord "://".toList path.toList with
    | some (scheme, rest) => parseUrl path scheme rest
    | none => parseAlias path path.toList

end Target

end BlobStore
