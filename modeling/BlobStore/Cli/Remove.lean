import BlobStore.Cli.Desk
import BlobStore.Cli.Invocation

/-!
# Removing

The command that removes objects, one by one or all those below a target. It goes on after an
error; the status of the last one is the status of the command.
-/

namespace BlobStore.Cli.Remove

/-- What has been removed, or would have been, and what has not. -/
structure Report where
  deleted : List String
  failed : List String
  status : ExitStatus

def Report.start : Report := ⟨[], [], .success⟩

def Report.succeed (key : String) (r : Report) : Report := { r with deleted := r.deleted ++ [key] }

def Report.fail (name : String) (status : ExitStatus) (r : Report) : Report :=
  { r with failed := r.failed ++ [name], status }

def Report.json (dryRun : Bool) (r : Report) : Json.Value :=
  let names (l : List String) : Json.Value := .array (l.map .string)
  .object <|
    [("deleted", names r.deleted)] ++ (if r.failed.isEmpty then [] else [("failed", names r.failed)]) ++
      [("dry_run", .bool dryRun)]

variable {σ : Type}

private def complain (style : Style) (context : String) (e : Error) (d : Desk σ) : Desk σ :=
  { d with terminal := style.error (context ++ ": " ++ e.message) d.terminal }

/-- Removes one object; in a dry run it is only named. -/
def removeOne (style : Style) (dryRun : Bool) (b : Bucket (Desk σ)) (r : Report) (key : String) :
    StateM (Desk σ) Report := fun d =>
  if dryRun then
    (r.succeed key, { d with terminal := style.line s!"Would remove: {key}" d.terminal })
  else
    match b.delete key d with
    | (.ok (), d) =>
      (r.succeed key, { d with terminal := style.success s!"Removed: {key}" d.terminal })
    | (.error e, d) =>
      (r.fail key e.exitStatus, complain style s!"Failed to remove '{key}'" e d)

/-- Removes all objects below a target while listing them. -/
def removeBelow (style : Style) (dryRun : Bool) (b : Bucket (Desk σ)) (pageLimit : Nat)
    (target : Target) (r : Report) : StateM (Desk σ) Report := fun d =>
  let options : ListOptions := { stem := target.key, delimiter := "", pageSize := 0, pageToken := none }
  let step (r : Report) (e : ListEntry) : StateM (Desk σ) Report := removeOne style dryRun b r e.key
  match ListCursor.fold b pure step pageLimit (.new options) r d with
  | ((.ok (), r), d) => (r, d)
  | ((.error e, r), d) =>
    ({ r with status := e.exitStatus }, complain style s!"Failed to list '{target.text}'" e d)

def removePath (s : Setting σ) (style : Style) (a : RemoveArguments) (r : Report) (path : String) :
    StateM (Desk σ) Report := fun d =>
  match Target.parse path with
  | .error e => (r.fail path e.exitStatus, complain style "Invalid target" e d)
  | .ok target =>
    if target.key.isEmpty && !a.recursive then
      let message := s!"'{path}' names a bucket, not an object; use --recursive to empty it"
      (r.fail path .usage, { d with terminal := style.error message d.terminal })
    else
      match openBucket s target d with
      | (.error e, d) => (r.fail path e.exitStatus, complain style "Failed to open bucket" e d)
      | (.ok bucket, d) =>
        if a.recursive then removeBelow style a.dryRun bucket s.pageLimit target r d
        else removeOne style a.dryRun bucket r target.key d

def removeAll (s : Setting σ) (style : Style) (a : RemoveArguments) : StateM (Desk σ) Report :=
  a.paths.foldlM (removePath s style a) Report.start

def execute (s : Setting σ) (style : Style) (a : RemoveArguments) : Step σ ExitStatus := do
  let report ← removeAll s style a
  if style.json then Step.display (Terminal.document (report.json a.dryRun))
  return report.status

end BlobStore.Cli.Remove
