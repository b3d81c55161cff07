import BlobStore.Error

/-!
# The place of the configuration file

A directory named for this program alone comes first, then the directory for the configuration of
all programs, then the one below the home directory.
-/

namespace BlobStore.Config

/-- The variables of the environment that say where the configuration is. -/
structure Surroundings where
  /-- The value of `SB_CONFIG_DIR`, which is used even if it is empty. -/
  own : Option String
  /-- The value of `XDG_CONFIG_HOME`, which is used if it is an absolute path. -/
  shared : Option String
  /-- The value of `HOME`, which is used if it is not empty. -/
  home : Option String
  /-- The home directory that the system knows for the user. -/
  account : Option String

def joinPath (base name : String) : String :=
  if base.isEmpty ∨ base.toList.getLast? = some '/' then base ++ name else base ++ "/" ++ name

def isAbsolute (path : String) : Bool := path.toList.head? = some '/'

/-- The directory for the configuration of all programs. -/
def sharedDirectory? (s : Surroundings) : Option String :=
  match s.shared.filter isAbsolute with
  | some path => some path
  | none => ((s.home.filter (!·.isEmpty)) <|> s.account).map (joinPath · ".config")

def directory (s : Surroundings) : Except Error String :=
  match s.own, sharedDirectory? s with
  | some directory, _ => .ok directory
  | none, some shared => .ok (joinPath shared "sb")
  | none, none => .error (.config .noDirectory)

def fileName : String := "config.toml"

def path (s : Surroundings) : Except Error String := do
  return joinPath (← directory s) fileName

end BlobStore.Config
