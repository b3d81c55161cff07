import BlobStore.Cli.Run
import BlobStore.Cli.Usage
import BlobStore.Config.Place
import BlobStore.Fleet
import BlobStore.Memory

/-!
# The program

Carries out one command. The configuration is in a file, and objects are in memory for as long as
the program runs.
-/

namespace BlobStore

def ioFault : IO.Error → IoFault
  | .noFileOrDirectory _ _ _ => .notFound
  | .inappropriateType _ code _ => if code = 21 then .isDirectory else .notDirectory
  | e => .other (toString e)

def surroundings : IO Config.Surroundings := do
  return ⟨← IO.getEnv "SB_CONFIG_DIR", ← IO.getEnv "XDG_CONFIG_HOME", ← IO.getEnv "HOME", none⟩

def openFile (path : String) : IO (Except IoFault OpenedFile) := do
  match ← (IO.FS.readBinFile path).toBaseIO with
  | .ok content => return .ok (.bytes content)
  | .error e =>
    match ioFault e with
    | .isDirectory => return .ok .directory
    | fault => return .error fault

/-- Finds the configuration file in a directory. -/
def readConfig (directory : String) : IO (Except Error ConfigFile) := do
  match ← openFile (Config.joinPath directory Config.fileName) with
  | .ok (.bytes content) => return .ok (.present content false)
  | .ok .directory => return .ok .directory
  | .error .notFound => return .ok .absent
  | .error fault => return .error (.io fault)

/-- Writes a new file beside the old one and puts it in the place of that one. -/
def writeConfig (directory : String) : ConfigFile → IO Unit
  | .present content ownerOnly => do
    let path := Config.joinPath directory Config.fileName
    let fresh := path ++ ".new"
    IO.FS.createDirAll directory
    IO.FS.writeBinFile fresh content
    if ownerOnly then IO.setAccessRights fresh ⟨⟨true, true, false⟩, ⟨false, false, false⟩, ⟨false, false, false⟩⟩
    IO.FS.rename fresh path
  | _ => pure ()

def showTerminal (t : Cli.Terminal) : IO Unit := do
  (← IO.getStdout).write t.out
  (← IO.getStderr).write t.err

/-- Whether colors make sense on the standard output. -/
def hasColors : IO Bool := do
  let terminal ← (← IO.getStdout).isTty
  return terminal && (← IO.getEnv "NO_COLOR").isNone && (← IO.getEnv "TERM") != some "dumb"

/-- Opens the file that a command is to upload, or reads the standard input if it needs that. -/
def settingFor (command : Cli.Command) : IO (Cli.Setting (Fleet Memory)) := do
  let setting (file : Except IoFault OpenedFile) (input : ByteArray) : Cli.Setting (Fleet Memory) :=
    { connect := Fleet.connect Memory.serve Memory.empty
      openFile := fun _ => file.map (·.handle)
      input := .ofBytes input
      mediaType := fun _ => none
      schedule := .sequential
      build := .release
      pageLimit := ListCursor.pageLimit }
  match command with
  | .put a =>
    match a.file with
    | some path => return setting (← openFile path) ByteArray.empty
    | none => return setting (.error .notFound) (← (← IO.getStdin).readBinToEnd)
  | _ => return setting (.error .notFound) ByteArray.empty

def stop (e : Error) : IO Cli.Outcome := do
  let (outcome, desk) := Cli.Step.run (Cli.withoutConfig e) (⟨.absent, (), .blank⟩ : Cli.Desk Unit)
  showTerminal desk.terminal
  return outcome

/-- Carries out a command and keeps the configuration that it leaves. -/
def carryOut (i : Cli.Invocation) : IO Cli.Outcome := do
  match Config.directory (← surroundings) with
  | .error e => stop e
  | .ok directory =>
    match ← readConfig directory with
    | .error e => stop e
    | .ok config =>
      let desk : Cli.Desk (Fleet Memory) := ⟨config, ∅, .blank⟩
      let (outcome, after) := i.run (← settingFor i.command) (← hasColors) desk
      if after.config ≠ config then writeConfig directory after.config
      showTerminal after.terminal
      return outcome

/-- The number that the program ends with. -/
def Cli.Outcome.code : Cli.Outcome → Nat
  | .exited status => status.code
  | .panicked => 101

end BlobStore

open BlobStore in
def main (words : List String) : IO UInt32 := do
  let outcome ← match Cli.Invocation.read words with
    | .ok i => carryOut i
    | .error refusal =>
      let stream ← if refusal.status = .success then IO.getStdout else IO.getStderr
      stream.putStr refusal.message
      pure (.exited refusal.status)
  return outcome.code.toUInt32
