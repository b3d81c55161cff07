import BlobStore.Cli.Desk

/-!
# Contents of an object

The command that writes the bytes of an object, or a range of them, as they are.
-/

namespace BlobStore.Cli.Read

variable {σ : Type}

def execute (s : Setting σ) (style : Style) (path : String) (offset : Nat) (length : Option Nat) :
    Step σ ExitStatus := do
  let (target, bucket) ← resolveObject s style path
  let reading ←
    Step.attempt style s!"Failed to read '{path}'" (bucket.readRange target.key offset length pure)
  Step.display (Terminal.write reading.data)
  return .success

end BlobStore.Cli.Read
