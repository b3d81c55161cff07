import BlobStore.Http.Uri
import BlobStore.Location
import BlobStore.Unicode.Alphanumeric
import BlobStore.Url.Percent

/-!
# Endpoints

Where the buckets of a service are on the network. A bucket is named in the host if its name can be
a part of a host name, and in the path otherwise or where that is asked for.
-/

namespace BlobStore.Http

structure Endpoint where
  region : String
  /-- The URL of another service than that of the region. -/
  url : Option String
  /-- Buckets are named in the path. -/
  pathStyle : Bool
  deriving DecidableEq, Repr

namespace Endpoint

def defaultRegion : String := "us-east-1"

def regionOf (l : Location) : String := l.region.getD defaultRegion

def of (l : Location) : Endpoint := ⟨regionOf l, l.endpointUrl, l.forcePathStyle⟩

/-- The characters of a key in an address; slashes stay. -/
def encodeKey (key : String) : String :=
  Url.percentEncode (fun b => b ≠ 0x2f && Url.EncodeSet.notUnreserved b) key

def encodePart (part : String) : String := Url.percentEncode Url.EncodeSet.notUnreserved part

/-! ## Regions -/

/-- Groups of regions with a domain of their own: the name for the whole group, what the names of its
regions start with, and the domain. -/
def domains : List (String × String × String) :=
  [("aws-cn-global", "cn-", "amazonaws.com.cn"), ("aws-iso-global", "us-iso-", "c2s.ic.gov"),
    ("aws-iso-b-global", "us-isob-", "sc2s.sgov.gov"),
    ("aws-iso-e-global", "eu-isoe-", "cloud.adc-e.uk"),
    ("aws-iso-f-global", "us-isof-", "csp.hci.ic.gov"), ("", "eusc-de-", "amazonaws.eu")]

/-- Whether a name is what the names of a group start with, a word, a hyphen and a number. -/
def isRegionOf (stem : String) (name : String) : Bool :=
  match (stem.toList.isPrefixOf? name.toList).map (·.splitOn '-') with
  | some [word, number] =>
    !word.isEmpty && word.all (fun c => c.isAlphanum || c = '_') &&
      !number.isEmpty && number.all Char.isDigit
  | _ => false

def domainOf (region : String) : String :=
  match domains.find? fun (group, stem, _) => region ≠ "" && region = group || isRegionOf stem region with
  | some (_, _, domain) => domain
  | none => "amazonaws.com"

/-- The host of the service of a region; the global region has no name of its own. -/
def hostOf (region : String) : String :=
  if region = "aws-global" then "s3.amazonaws.com" else "s3." ++ region ++ "." ++ domainOf region

/-! ## Names of buckets -/

/-- One part of a host name: letters, digits and hyphens that are not the first. -/
def isHostLabel (label : List Char) : Bool :=
  !label.isEmpty && (String.ofList label).utf8ByteSize ≤ 63 && label.head? ≠ some '-' &&
    label.all fun c => Unicode.isAlphanumeric c || c = '-'

private def isLowerOrDigit (c : Char) : Bool := c.isLower || c.isDigit

private def looksNumeric (name : List Char) : Bool :=
  let parts := name.splitOn '.'
  parts.length = 4 && parts.all fun part => !part.isEmpty && part.all Char.isDigit

/-- Whether a bucket can be named in a host, where dots may be allowed in its name. -/
def isHostable (dots : Bool) (name : List Char) : Bool :=
  (if dots then (name.splitOn '.').all isHostLabel else isHostLabel name) &&
    3 ≤ name.length && name.length ≤ 63 &&
    name.all (fun c => isLowerOrDigit c || c = '-' || c = '.') &&
    name.head?.any isLowerOrDigit && name.getLast?.any isLowerOrDigit &&
    !looksNumeric name &&
    !Text.containsWord ".-" (String.ofList name) && !Text.containsWord "-." (String.ofList name)

private def isAscii (name : List Char) : Bool := name.all (·.toNat < 0x80)

private def endsWith (ending : String) (name : List Char) : Bool :=
  isAscii name && ending.toList.isSuffixOf name

/-- Whether requests about a bucket need a session. -/
def isDirectory (bucket : String) : Bool := endsWith "--x-s3" bucket.toList

/-- A resource name in the place of a bucket, which is not supported. -/
def isResourceName (name : List Char) : Bool :=
  match name.splitOn ':' with
  | ['a', 'r', 'n'] :: partition :: service :: _ :: _ :: resource :: more =>
    isAscii name || !partition.isEmpty && !service.isEmpty && (!resource.isEmpty || !more.isEmpty)
  | ['a', 'r', 'n'] :: _ :: _ => isAscii name
  | _ => false

/-! ## Other services -/

/-- The URL of another service. -/
structure Other where
  uri : Uri
  /-- The host is an address in numbers. -/
  isNumeric : Bool
  /-- The path as it is written, which may be empty. -/
  path : String
  deriving DecidableEq, Repr

/-- Reads the URL of a service, which has no query. -/
def Other.parse? (url : String) : Option Other := do
  let uri ← Uri.parse? url
  let host := ((Url.parse url).toOption.map Url.host).getD ""
  if uri.query.isSome ∨ host.isEmpty then none
  some
    { uri
      isNumeric := host.startsWith "[" || Url.endsInNumber host.toList
      path := if uri.path = "/" ∧ url.toList.getLast? ≠ some '/' then "" else uri.path }

/-- The name of the bucket is in front of the host. -/
def Other.inHost (o : Other) (bucket : String) : String :=
  o.uri.scheme ++ "://" ++ bucket ++ "." ++ o.uri.authority ++ o.path

/-- The name of the bucket directly follows the path. -/
def Other.inPath (o : Other) (bucket : String) : String :=
  o.uri.scheme ++ "://" ++ o.uri.authority ++ o.uri.path ++ encodePart bucket

/-- A bucket on hardware outside the regions, whose name tells the kind of the hardware and its id. -/
private def outpostUrl? (e : Endpoint) (other : Option Other) (bucket : String) : Option String := do
  let name := bucket.toList
  let part (start stop : Nat) : List Char := (name.drop (name.length - stop)).take (stop - start)
  let id := part 32 49
  if !isHostLabel id then none
  let kind ← match part 49 50 with
    | ['e'] => some "ec2"
    | ['o'] => some ("op-" ++ String.ofList id)
    | _ => none
  let host ←
    if part 8 12 = "beta".toList then other.map (·.uri.authority)
    else some ("s3-outposts." ++ e.region ++ "." ++ domainOf e.region)
  some ("https://" ++ bucket ++ "." ++ kind ++ "." ++ host)

/-! ## Addresses of buckets -/

/-- Whether a bucket is named in the host. Over TLS its name has to be one part of the host name. -/
def namesInHost (e : Endpoint) (other : Option Other) (name : List Char) : Bool :=
  !e.pathStyle &&
    (isHostable false name || other.any (·.uri.scheme = "http") && isHostable true name)

/-- Where a bucket is, as a text. The region of a bucket that is named in the host must be a part of a
host name too. -/
private def bucketText? (e : Endpoint) (other : Option Other) (bucket : String) : Option String :=
  let name := bucket.toList
  match other with
  | some other =>
    if isDirectory bucket then
      if other.isNumeric then some (other.inPath bucket)
      else if isHostable false name then some (other.inHost bucket)
      else none
    else if 50 ≤ name.length && endsWith "--op-s3" name then outpostUrl? e other bucket
    else if e.namesInHost other name then
      if !isHostLabel e.region.toList then none
      else if other.isNumeric && isHostable false name then some (other.inPath bucket)
      else some (other.inHost bucket)
    else if isResourceName name then none
    else some (other.inPath bucket)
  | none =>
    if isDirectory bucket then none
    else if 50 ≤ name.length && endsWith "--op-s3" name then outpostUrl? e none bucket
    else if e.namesInHost none name then
      if isHostLabel e.region.toList then some ("https://" ++ bucket ++ "." ++ hostOf e.region) else none
    else if isResourceName name then none
    else some ("https://" ++ hostOf e.region ++ "/" ++ encodePart bucket)

/-- The address of a bucket, under which its keys are. -/
def bucketUri? (e : Endpoint) (bucket : String) : Option Uri := do
  let other ← match e.url with
    | some url => (Other.parse? url).map some
    | none => some none
  Uri.parse? (← bucketText? e other bucket)

end Endpoint

end BlobStore.Http
