import BlobStore.Cli.Desk

/-!
# Managing aliases

The commands that define, list and remove the aliases of the configuration.
-/

namespace BlobStore.Cli.Aliases

def operationJson (name message : String) : Json.Value :=
  .object [("success", .bool true), ("alias", .string name), ("message", .string message)]

def report (style : Style) (name message : String) (t : Terminal) : Terminal :=
  if style.json then t.document (operationJson name message) else style.success message t

def listJson (aliases : List Alias) : Json.Value :=
  .object [("aliases", .array (aliases.map fun a =>
    .object [("name", .string a.name), ("url", .string a.url)]))]

def listLines (aliases : List Alias) : List String :=
  if aliases.isEmpty then ["No aliases configured."]
  else aliases.map fun a => Text.alignLeft 12 a.name ++ " " ++ a.url

variable {σ : Type}

def define (style : Style) (a : Alias) : Step σ ExitStatus := do
  Step.accept style "Invalid alias" a.check
  Step.attempt style "Failed to save alias" (onConfig (ConfigFile.defineAlias a))
  Step.display (report style a.name s!"Alias '{a.name}' set to {a.url}")
  return .success

def list (style : Style) : Step σ ExitStatus := do
  let aliases ← Step.accept style "Failed to list aliases" (← get).config.aliases
  if style.json then Step.display (Terminal.document (listJson aliases))
  else Step.display fun t => (listLines aliases).foldl (fun t line => style.line line t) t
  return .success

def remove (style : Style) (name : String) : Step σ ExitStatus := do
  Step.attempt style "Failed to remove alias" (onConfig (ConfigFile.removeAlias name))
  Step.display (report style name s!"Alias '{name}' removed")
  return .success

end BlobStore.Cli.Aliases
