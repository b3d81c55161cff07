import BlobStore.Bytes.Hex
import BlobStore.Duration
import BlobStore.ExitStatus
import BlobStore.Fault
import BlobStore.Url.Fault

/-!
# Errors

Why an operation failed, as a cause; the wording is in the `message` functions and the exit status
of a program that stops with the error in `Error.exitStatus`.
-/

namespace BlobStore

def schemaVersion : Nat := 1

/-- The longest time that a signed URL may be valid, in seconds. -/
def maxSignedSeconds : Nat := 604800

inductive Misuse where
  | emptyPath
  | noBucket (url : String)
  | malformedPath (path : String)
  | aliasName (name : String)
  | aliasWithoutBucket (url : String)
  | namelessBucket
  | noBucketName (url : String)
  | unknownParameter (name : String)
  | expiryOutOfRange
  | negativeExpiry (expiry : Duration)
  | pageTokenEncoding
  | pageTokenDigits (token : String) (why : Bytes.Hex.Fault)
  | other (reason : String)
  deriving DecidableEq, Repr

def Misuse.message : Misuse → String
  | .emptyPath => "Path cannot be empty"
  | .noBucket url => s!"URL '{url}' does not name a bucket"
  | .malformedPath path => s!"Invalid path '{path}'. Use alias/key or scheme://bucket/key"
  | .aliasName name => s!"invalid alias name '{name}'"
  | .aliasWithoutBucket url => s!"alias URL '{url}' has no bucket"
  | .namelessBucket => "bucket name is required"
  | .noBucketName url => s!"URL '{url}' has no bucket name"
  | .unknownParameter name => s!"unknown query parameter '{name}' in bucket URL"
  | .expiryOutOfRange => s!"signed URL expiry must be between 1s and {maxSignedSeconds}s"
  | .negativeExpiry expiry => s!"expiry must not be negative: {expiry.text}"
  | .pageTokenEncoding => "page token is not valid UTF-8"
  | .pageTokenDigits token why => s!"'{token}': {why.message}"
  | .other reason => reason

inductive ConfigFault where
  | newerSchema (version : Nat)
  | schemeTaken (scheme : String)
  | noDirectory
  | other (reason : String)
  deriving DecidableEq, Repr

def ConfigFault.message : ConfigFault → String
  | .newerSchema version =>
    s!"Configuration file version {version} is newer than supported version {schemaVersion}. Please upgrade sb."
  | .schemeTaken scheme => s!"scheme '{scheme}' is already registered"
  | .noDirectory => "Could not determine config directory"
  | .other reason => reason

/-- Failures of the file system, in the words of the operating system. -/
inductive IoFault where
  | notFound
  | isDirectory
  | notDirectory
  | invalidUtf8
  | nameTooLong
  | nulInName
  /-- A body that does not arrive as it should. -/
  | brokenStream
  | other (reason : String)
  deriving DecidableEq, Repr

def IoFault.message : IoFault → String
  | .notFound => "No such file or directory (os error 2)"
  | .isDirectory => "Is a directory (os error 21)"
  | .notDirectory => "Not a directory (os error 20)"
  | .invalidUtf8 => "stream did not contain valid UTF-8"
  | .nameTooLong => "File name too long (os error 36)"
  | .nulInName => "file name contained an unexpected NUL byte"
  | .brokenStream => "streaming error"
  | .other reason => reason

/-- Why the text of a configuration file was refused. -/
inductive TomlFault where
  | malformed
  | missing (field : String)
  | unexpected (field : String)
  deriving DecidableEq, Repr

def TomlFault.message : TomlFault → String
  | .malformed => "the text is not well formed"
  | .missing field => s!"missing field '{field}'"
  | .unexpected field => s!"unexpected value for '{field}'"

/-- What a storage backend reported: a fault of the object service, or some other text. -/
inductive BackendCause where
  | fault (f : Fault)
  | other (text : String)
  deriving DecidableEq, Repr

def BackendCause.message : BackendCause → String
  | .fault f => f.message
  | .other text => text

inductive Error where
  | backend (errorClass : ErrorClass) (cause : BackendCause)
  | invalidArgument (why : Misuse)
  | config (why : ConfigFault)
  | invalidUrl (why : UrlFault)
  | unknownScheme (scheme : String)
  | aliasNotFound (name : String)
  | io (why : IoFault)
  | toml (why : TomlFault)
  deriving DecidableEq, Repr

namespace Error

/-- A fault of the service, with its class. -/
def ofFault (f : Fault) : Error := .backend f.errorClass (.fault f)

/-- Whatever no backend reported is of no known class. -/
def errorClass : Error → ErrorClass
  | .backend c _ => c
  | _ => .unknown

def fault? : Error → Option Fault
  | .backend _ (.fault f) => some f
  | _ => none

def message : Error → String
  | .backend c cause => c.text ++ ": " ++ cause.message
  | .invalidArgument why => "Invalid argument: " ++ why.message
  | .config why => "Configuration error: " ++ why.message
  | .invalidUrl why => "Invalid URL: " ++ why.message
  | .unknownScheme scheme => s!"No bucket opener registered for scheme '{scheme}'"
  | .aliasNotFound name => "Alias not found: " ++ name
  | .io why => "IO error: " ++ why.message
  | .toml why => "TOML parse error: " ++ why.message

def exitStatus : Error → ExitStatus
  | .invalidArgument _ => .usage
  | .invalidUrl _ => .usage
  | .unknownScheme _ => .usage
  | .config _ => .usage
  | .aliasNotFound _ => .notFound
  | .backend .notFound _ => .notFound
  | .backend .unknown _ => .failure
  | .io _ => .failure
  | .toml _ => .failure

end Error

/-- An operation that may fail and changes a state, also when it fails. -/
abbrev Action (σ α : Type) := ExceptT Error (StateM σ) α

end BlobStore
