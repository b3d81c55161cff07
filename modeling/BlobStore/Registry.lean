import BlobStore.Error
import BlobStore.KeyMap
import BlobStore.Url.Parser

/-!
# Openers by scheme

A registry holds for each scheme of URLs a way to open what they name. A scheme is registered at
most once.
-/

namespace BlobStore

abbrev Registry (α : Type) := KeyMap (Url → Except Error α)

namespace Registry

variable {α : Type}

def register (r : Registry α) (scheme : String) (opener : Url → Except Error α) :
    Except Error (Registry α) :=
  if r.contains scheme then .error (.config (.schemeTaken scheme)) else .ok (r.insert scheme opener)

def schemes (r : Registry α) : List String := r.keys

def openUrl (r : Registry α) (text : String) : Except Error α :=
  match Url.parse text with
  | .error e => .error (.invalidUrl e)
  | .ok url =>
    match r.get? url.scheme with
    | none => .error (.unknownScheme url.scheme)
    | some opener => opener url

end Registry

end BlobStore
