import BlobStore.Error
import BlobStore.Text.Cut
import BlobStore.Url.Parser

/-!
# Bucket locations

Where a bucket is and how it is reached, as an `s3` URL tells it: the host is the name of the
bucket and the query holds the settings of the connection.
-/

namespace BlobStore

structure Location where
  bucket : String
  region : Option String
  /-- The host name or the full URL of another service of the same kind. -/
  endpoint : Option String
  /-- Plain HTTP is used for an endpoint that is only a host name. -/
  disableSsl : Bool
  /-- The bucket is named in the path instead of in the host. -/
  forcePathStyle : Bool
  deriving DecidableEq, Repr

namespace Location

def scheme : String := "s3"

/-- Takes in one pair of the query; the last of several wins. -/
def assign (l : Location) (name value : String) : Except Error Location :=
  if name = "region" then .ok { l with region := some value }
  else if name = "endpoint" then .ok { l with endpoint := some value }
  else if name = "disableSSL" then .ok { l with disableSsl := value = "true" }
  else if name = "s3ForcePathStyle" then .ok { l with forcePathStyle := value = "true" }
  else .error (.invalidArgument (.unknownParameter name))

def ofUrl (url : Url) : Except Error Location :=
  if url.scheme ≠ scheme then .error (.unknownScheme url.scheme)
  else if url.host.isEmpty then .error (.invalidArgument (.noBucketName url.text))
  else
    let start : Location :=
      { bucket := url.host, region := none, endpoint := none, disableSsl := false, forcePathStyle := false }
    url.queryPairs.foldlM (fun l pair => l.assign pair.1 pair.2) start

def endpointUrl (l : Location) : Option String :=
  l.endpoint.map fun endpoint =>
    if Text.containsWord "://" endpoint then endpoint
    else (if l.disableSsl then "http" else "https") ++ "://" ++ endpoint

end Location

end BlobStore
