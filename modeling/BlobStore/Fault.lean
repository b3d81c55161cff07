/-!
# Faults of the object service

What can go wrong when a request is made: the service answers with an error code, no answer
arrives, the request could not be built, or the operation is canceled. Faults are plain values, so
that the fault which ended an upload can be handed to everyone who asks for it.
-/

namespace BlobStore

/-- Why a request could not be built. -/
inductive RequestFault where
  | noUploadId
  | tooManyParts (partSize : Nat)
  | uploadFinished
  | other (reason : String)
  deriving DecidableEq, Repr

def maxParts : Nat := 10000

def RequestFault.message : RequestFault → String
  | .noUploadId => "CreateMultipartUpload returned no upload id"
  | .tooManyParts partSize => s!"upload exceeds {maxParts} parts of {partSize} bytes"
  | .uploadFinished => "upload already finished"
  | .other reason => reason

/-- A fault without a message is one that the service did not describe. -/
inductive Fault where
  | service (code : String) (message : Option String)
  | transport (message : Option String)
  | invalidRequest (why : RequestFault)
  | canceled
  deriving DecidableEq, Repr

/-- Whether an operation failed because there is no such object. -/
inductive ErrorClass where
  | notFound
  | unknown
  deriving DecidableEq, Repr

def ErrorClass.text : ErrorClass → String
  | .notFound => "not found"
  | .unknown => "unknown"

namespace Fault

def code? : Fault → Option String
  | .service code _ => some code
  | _ => none

/-- What is shown for a fault that came without a description. -/
def undescribed : String := "no description"

def message : Fault → String
  | .service code text => code ++ ": " ++ text.getD undescribed
  | .transport text => text.getD undescribed
  | .invalidRequest why => "invalid request: " ++ why.message
  | .canceled => "request canceled"

/-- Only these two codes say that there is no such object. -/
def errorClass (f : Fault) : ErrorClass :=
  if f.code? = some "NoSuchKey" ∨ f.code? = some "NotFound" then .notFound else .unknown

end Fault

/-- How an exchange with the service over a network failed. -/
inductive ExchangeFailure where
  /-- The service answered with an error; its code and message may be missing. -/
  | refused (status : Nat) (code message : Option String)
  /-- An answer arrived that could not be understood. -/
  | unreadable (status : Nat)
  | unanswered
  deriving DecidableEq, Repr

namespace ExchangeFailure

def status? : ExchangeFailure → Option Nat
  | .refused status _ _ => some status
  | .unreadable status => some status
  | .unanswered => none

def code? : ExchangeFailure → Option String
  | .refused _ code _ => code
  | _ => none

def message? : ExchangeFailure → Option String
  | .refused _ _ message => message
  | _ => none

/-- Where the code is missing, status 404 counts as `NotFound`: an answer to HEAD has no body that
could hold a code. -/
def fault (e : ExchangeFailure) : Fault :=
  match e.code? with
  | some code => .service code e.message?
  | none => if e.status? = some 404 then .service "NotFound" e.message? else .transport e.message?

end ExchangeFailure

end BlobStore
