import BlobStore.Config

/-!
# The configuration file

The file that holds the configuration, as a value. Loading reads it; saving writes its text and then
sets its permissions.
-/

namespace BlobStore

/-- What is found at the place of the configuration file. -/
inductive ConfigFile where
  | absent
  | directory
  /-- A file, which may be readable to its owner only. -/
  | present (bytes : ByteArray) (ownerOnly : Bool)
  deriving DecidableEq

namespace ConfigFile

/-- The configuration in the file, or the standard one if there is no file. -/
def load : ConfigFile → Except Error Config
  | .absent => .ok .standard
  | .directory => .error (.io .isDirectory)
  | .present bytes _ =>
    match String.fromUTF8? bytes with
    | none => .error (.io .invalidUtf8)
    | some text => Config.parse text

/-- Puts a text into the file, which is created if there is none. -/
def write (text : String) : Action ConfigFile Unit := fun file =>
  match file with
  | .absent => (.ok (), .present text.toUTF8 false)
  | .directory => (.error (.io .isDirectory), .directory)
  | .present _ ownerOnly => (.ok (), .present text.toUTF8 ownerOnly)

/-- Lets nobody but the owner read the file. -/
def restrict : Action ConfigFile Unit := fun file =>
  match file with
  | .absent => (.error (.io .notFound), .absent)
  | .directory => (.ok (), .directory)
  | .present bytes _ => (.ok (), .present bytes true)

def save (config : Config) : Action ConfigFile Unit := do
  write config.text
  restrict

/-! ## Aliases in the file -/

def aliases (file : ConfigFile) : Except Error (List Alias) := file.load.map (·.aliases)

def findAlias (file : ConfigFile) (name : String) : Except Error Alias := do
  Alias.find (← file.aliases) name

def hasAlias (file : ConfigFile) (name : String) : Except Error Bool := do
  return (← file.aliases).any (·.name = name)

def defineAlias (a : Alias) : Action ConfigFile Unit := do
  a.check
  let config ← (← get).load
  save { config with aliases := Alias.define a config.aliases }

def removeAlias (name : String) : Action ConfigFile Unit := do
  let config ← (← get).load
  let remaining := Alias.without name config.aliases
  if remaining.length = config.aliases.length then throw (.aliasNotFound name)
  save { config with aliases := remaining }

end ConfigFile

end BlobStore
