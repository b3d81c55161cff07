import BlobStore.Cli.Desk

/-!
# Signing

The command that makes a URL with which anybody may read an object for some time. The URL is the
result of the command and is written in any style.
-/

namespace BlobStore.Cli.Sign

def json (url : String) (expiry : Duration) : Json.Value :=
  .object [("url", .string url), ("expires_secs", .number expiry.wholeSeconds)]

def report (style : Style) (url : String) (expiry : Duration) (t : Terminal) : Terminal :=
  if style.json then t.document (json url expiry) else t.writeLine url

/-- A time to come cannot be negative. -/
def checkExpiry (expiry : Duration) : Except Error Unit :=
  if expiry.isNegative then .error (.invalidArgument (.negativeExpiry expiry)) else .ok ()

variable {σ : Type}

def execute (s : Setting σ) (style : Style) (path : String) (expiry : Duration) : Step σ ExitStatus := do
  Step.accept style "Invalid expiry" (checkExpiry expiry)
  let (target, bucket) ← resolveObject s style path
  let url ← Step.attempt style "Failed to sign URL" (bucket.signedUrl target.key expiry)
  Step.display (report style url expiry)
  return .success

end BlobStore.Cli.Sign
