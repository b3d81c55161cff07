import BlobStore.Source

/-!
# What commands find around them

The files and the input of a command, and how the machine goes about running it: what happens between
two moves of an upload, and what becomes of a sum that leaves its word.
-/

namespace BlobStore.Cli

/-- What comes between two moves of a command that copies its source: turns of the task that runs the
upload, and then perhaps an interruption by the user. -/
structure Pause where
  turns : Nat
  interrupted : Bool
  deriving DecidableEq, Repr

/-- How a command and the task of its upload take turns. -/
structure Schedule where
  /-- The pauses before the moves of the copy, one after the other. -/
  copying : Nat → Pause
  /-- The turns of the task between the copy and the end of the body. -/
  closing : Nat

/-- The task gets its turn only where the command waits for it. -/
def Schedule.sequential : Schedule := ⟨fun _ => ⟨0, false⟩, 0⟩

inductive Build where
  /-- A sum that leaves its word ends the program. -/
  | checked
  /-- Sums are taken modulo the size of their word. -/
  | release
  deriving DecidableEq, Repr

/-- Adds to a word. There is no sum where the program ends. -/
def Build.add? (b : Build) (total : UInt64) (n : Nat) : Option UInt64 :=
  if b = .checked ∧ UInt64.size ≤ total.toNat + n then none else some (total + UInt64.ofNat n)

structure Host where
  openFile : String → Except IoFault FileHandle
  input : Source
  /-- The media type that the name of a file suggests. -/
  mediaType : String → Option String
  schedule : Schedule
  build : Build
  /-- How many pages of a listing may be asked for. -/
  pageLimit : Nat

end BlobStore.Cli
