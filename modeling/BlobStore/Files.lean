import BlobStore.Error
import BlobStore.KeyMap

/-!
# Files

The files below a working directory, by their paths from there. A path with slashes stands for the
directories on the way too.
-/

namespace BlobStore

abbrev Files := KeyMap ByteArray

/-- What is found when a file is opened. -/
inductive OpenedFile where
  | bytes (content : ByteArray)
  | directory

namespace Files

def maxNameLength : Nat := 255

def maxPathLength : Nat := 4095

/-- What is at a path from the working directory, where the empty path leads. -/
def find? (files : Files) (path : String) : Option OpenedFile :=
  match files.get? path with
  | some content => some (.bytes content)
  | none =>
    if path.isEmpty ∨ files.keys.any (·.startsWith (path ++ "/")) then some .directory else none

private def isStep (name : String) : Bool := !name.isEmpty && name ≠ "."

/-- Follows the names of a path, from a place given by the names of the directories above it, the
nearest first. Above the working directory there are directories, but nothing in them is known. -/
def follow (files : Files) : List String → List String → Except IoFault OpenedFile
  | above, names =>
    match files.find? ("/".intercalate above.reverse), names with
    | none, _ => .error .notFound
    | some found, [] => .ok found
    | some (.bytes _), _ :: _ => .error .notDirectory
    | some .directory, name :: rest =>
      if !isStep name then follow files above rest
      else if name = ".." then
        if above.isEmpty then
          if rest.any fun name => isStep name && name ≠ ".." then .error .notFound else .ok .directory
        else follow files above.tail rest
      else if maxNameLength < name.utf8ByteSize then .error .nameTooLong
      else follow files (name :: above) rest

/-- The directories at the root of a machine. -/
def rootDirectories : List String :=
  ["bin", "boot", "dev", "etc", "home", "lib", "media", "mnt", "opt", "proc", "root", "run", "sbin",
    "srv", "sys", "tmp", "usr", "var"]

/-- What is at a path from the root, of which nothing is known but the directories there and the empty
device. -/
def openRooted (names : List String) : Except IoFault OpenedFile :=
  match names.filter isStep with
  | [] => .ok .directory
  | ["dev", "null"] =>
    if names.getLast? = some "null" then .ok (.bytes ByteArray.empty) else .error .notDirectory
  | "dev" :: "null" :: _ => .error .notDirectory
  | [name] => if rootDirectories.contains name then .ok .directory else .error .notFound
  | _ => .error .notFound

def openAt (files : Files) (path : String) : Except IoFault OpenedFile :=
  if path.toList.contains '\x00' then .error .nulInName
  else if maxPathLength < path.utf8ByteSize then .error .nameTooLong
  else if path.startsWith "/" then openRooted (path.splitOn "/")
  else files.follow [] (path.splitOn "/")

end Files

end BlobStore
