import BlobStore.Bytes.Chunks
import BlobStore.Files

/-!
# Sources

What comes in from a file or from the standard input, piece by piece. Reading may fail after any
number of pieces.
-/

namespace BlobStore

/-- A read that gives nothing is the end, so no piece is empty. -/
structure Source where
  pieces : List ByteArray
  /-- What reading fails with after the pieces, unless they are all there is. -/
  failure : Option IoFault
  nonempty : ∀ piece ∈ pieces, piece.isEmpty = false := by decide
  deriving DecidableEq

/-- How many bytes are read at a time. -/
def Source.readSize : Nat := 64 * 1024

def Source.ofBytes (content : ByteArray) : Source where
  pieces := Bytes.chunks readSize content
  failure := none
  nonempty := Bytes.nonempty_of_mem_chunks

/-- A file that has been opened. -/
structure FileHandle where
  /-- The length that is told of it. -/
  length : Except IoFault Nat
  source : Source

/-- A directory can be opened and not be read. -/
def OpenedFile.handle : OpenedFile → FileHandle
  | .bytes content => ⟨.ok content.size, .ofBytes content⟩
  | .directory => ⟨.ok 0, ⟨[], some .isDirectory, nofun⟩⟩

end BlobStore
