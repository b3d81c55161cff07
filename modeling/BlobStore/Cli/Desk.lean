import BlobStore.Bucket
import BlobStore.Cli.Host
import BlobStore.Cli.Terminal
import BlobStore.Config.File
import BlobStore.Location
import BlobStore.Registry
import BlobStore.Target

/-!
# What commands work on

The state that commands read and change, and the steps they have in common: reporting an error,
and finding the bucket of a target.
-/

namespace BlobStore.Cli

/-- The state of a program that uses services with states of type `σ`. -/
structure Desk (σ : Type) where
  config : ConfigFile
  services : σ
  terminal : Terminal

/-- What commands find around them and do not change. -/
structure Setting (σ : Type) extends Host where
  connect : Location → Action σ (Bucket σ)

inductive Outcome where
  | exited (status : ExitStatus)
  /-- The program has broken off, and says so in its own way. -/
  | panicked
  deriving DecidableEq, Repr

variable {σ α : Type}

/-- A part of a command, which may end the command. -/
abbrev Step (σ α : Type) := ExceptT Outcome (StateM (Desk σ)) α

namespace Step

def display (f : Terminal → Terminal) : Step σ Unit := fun d =>
  (.ok (), { d with terminal := f d.terminal })

def fail (style : Style) (context : String) (e : Error) : Step σ α := fun d =>
  (.error (.exited e.exitStatus),
    { d with terminal := style.error (context ++ ": " ++ e.message) d.terminal })

/-- Carries out an action; an error is reported and ends the command. -/
def attempt (style : Style) (context : String) (action : Action (Desk σ) α) : Step σ α := fun d =>
  match action d with
  | (.ok a, d) => (.ok a, d)
  | (.error e, d) => fail style context e d

/-- Takes a result; an error is reported and ends the command. -/
def accept (style : Style) (context : String) : Except Error α → Step σ α
  | .ok a => pure a
  | .error e => fail style context e

def run (step : Step σ ExitStatus) : StateM (Desk σ) Outcome := fun d =>
  match step d with
  | (.ok status, d) => (.exited status, d)
  | (.error outcome, d) => (outcome, d)

end Step

/-- An action on the services alone. -/
def onServices (action : Action σ α) : Action (Desk σ) α := fun d =>
  let (r, services) := action d.services
  (r, { d with services })

/-- An action on the configuration file alone. -/
def onConfig (action : Action ConfigFile α) : Action (Desk σ) α := fun d =>
  let (r, config) := action d.config
  (r, { d with config })

/-- A bucket whose service is part of the desk. -/
def deskBucket (b : Bucket σ) : Bucket (Desk σ) :=
  { name := b.name
    serve := fun r d =>
      let (answer, services) := b.serve r d.services
      (answer, { d with services }) }

/-- The openers of buckets by the schemes of their URLs. -/
def registry : Except Error (Registry Location) := Registry.register ∅ Location.scheme Location.ofUrl

/-- The URL of the bucket of a target. Aliases are looked up in the configuration. -/
def bucketUrl (config : ConfigFile) : Target → Except Error String
  | .url url _ => .ok url
  | .aliased name _ => (config.findAlias name).map (·.url)

/-- Where the bucket of a target is. -/
def locate (config : ConfigFile) (t : Target) : Except Error Location := do
  Registry.openUrl (← registry) (← bucketUrl config t)

def openBucket (s : Setting σ) (t : Target) : Action (Desk σ) (Bucket (Desk σ)) := fun d =>
  match locate d.config t with
  | .error e => (.error e, d)
  | .ok location => (do return deskBucket (← onServices (s.connect location)) : Action (Desk σ) _) d

/-- Finds the target that a path names, and its bucket. -/
def resolve (s : Setting σ) (style : Style) (path : String) : Step σ (Target × Bucket (Desk σ)) := do
  let target ← Step.accept style "Invalid target" (Target.parse path)
  let bucket ← Step.attempt style "Failed to open bucket" (openBucket s target)
  return (target, bucket)

/-- As `resolve`, for a path that must name an object. -/
def resolveObject (s : Setting σ) (style : Style) (path : String) :
    Step σ (Target × Bucket (Desk σ)) := do
  let target ← Step.accept style "Invalid target" (Target.parse path)
  if target.key.isEmpty then
    Step.display (style.error s!"Object key is required: '{path}'")
    throw (.exited .usage)
  let bucket ← Step.attempt style "Failed to open bucket" (openBucket s target)
  return (target, bucket)

end BlobStore.Cli
