import BlobStore.Proofs.Cli.Remove.Attempts
import BlobStore.Proofs.Listing.Sweep

/-!
# The status of removing

The command keeps a list of what has failed beside the status that it ends with. The two tell the
same of whatever is named by a path or a key. A page of a listing is named by neither: one that is
refused shows in the status alone.
-/

namespace BlobStore.Cli.Remove

/-- What a run of the command has added to the report, and what it has asked of each bucket: the
status is as good as before if nothing has been added to the failures and no listing has been
refused. -/
def Accounts (x y : Report × Desk (Fleet (Noted Memory))) : Prop :=
  ∃ (more : List String) (new : String → List Event), y.1.failed = x.1.failed ++ more ∧
    (∀ name, (recordOf y.2.services name).events = (recordOf x.2.services name).events ++ new name) ∧
    (y.1.status = .success ↔ x.1.status = .success ∧ more = [] ∧ ∀ name, ListingsGranted (new name))

private theorem Accounts.of_same {d d' : Desk (Fleet (Noted Memory))}
    (hrecord : ∀ name, recordOf d'.services name = recordOf d.services name) (r : Report) :
    Accounts (r, d) (r, d') :=
  ⟨[], fun _ => [], (List.append_nil _).symm, fun name => by rw [hrecord, List.append_nil],
    (and_iff_left ⟨rfl, fun _ => .nil⟩).symm⟩

theorem Accounts.refl (x : Report × Desk (Fleet (Noted Memory))) : Accounts x x :=
  .of_same (fun _ => rfl) x.1

theorem Accounts.trans {x y z : Report × Desk (Fleet (Noted Memory))} (hxy : Accounts x y)
    (hyz : Accounts y z) : Accounts x z := by
  obtain ⟨more, new, hfailed, hevents, hstatus⟩ := hxy
  obtain ⟨more', new', hfailed', hevents', hstatus'⟩ := hyz
  refine ⟨more ++ more', fun name => new name ++ new' name, ?_, fun name => ?_, ?_⟩
  · rw [hfailed', hfailed, List.append_assoc]
  · rw [hevents', hevents, List.append_assoc]
  · rw [hstatus', hstatus]
    simp only [List.append_eq_nil_iff, listingsGranted_append, forall_and]
    tauto

theorem Accounts.of_extended {r r' : Report} {d d' : Desk (Fleet (Noted Memory))} (name : String)
    (x : Noted Memory) (more : List String)
    (hrecord : ∀ other, recordOf d'.services other = recordOf (extended d name x).services other)
    (hfailed : r'.failed = r.failed ++ more)
    (hstatus : r'.status = .success ↔ r.status = .success ∧ more = [] ∧ ListingsGranted x.events) :
    Accounts (r, d) (r', d') := by
  refine ⟨more, fun other => if other = name then x.events else [], hfailed, fun other => ?_, ?_⟩
  · dsimp only
    rw [hrecord, recordOf_extended]
    split
    · rename_i h
      rw [h]
    · exact (List.append_nil _).symm
  · have hnew : (∀ other, ListingsGranted (if other = name then x.events else [])) ↔
        ListingsGranted x.events := by
      constructor
      · intro h
        have hname := h name
        rwa [if_pos rfl] at hname
      · intro h other
        split
        · exact h
        · exact .nil
    rw [hnew]
    exact hstatus

theorem Accounts.fail {d d' : Desk (Fleet (Noted Memory))} (hservices : d'.services = d.services)
    (r : Report) (path : String) {status : ExitStatus} (hstatus : status ≠ .success) :
    Accounts (r, d) (r.fail path status, d') :=
  ⟨[path], fun _ => [], rfl, fun name => by rw [hservices, List.append_nil],
    iff_of_false hstatus nofun⟩

theorem Attempts.accounts {name : String} {attempts : List Attempt} {r r' : Report}
    {d d' : Desk (Fleet (Noted Memory))} (h : Attempts name attempts (r, d) (r', d')) :
    Accounts (r, d) (r', d') := by
  obtain ⟨new, hnew, -, hlisted⟩ := h.events
  refine .of_extended name ⟨(recordOf d'.services name).state, new⟩ _ ?_ h.failed ?_
  · intro other
    rw [recordOf_extended]
    split
    · rename_i hname
      rw [hname, ← hnew]
    · rename_i hname
      exact h.others other hname
  · rw [h.status, and_iff_left hlisted]

theorem Accounts.terminal (r : Report) (d : Desk (Fleet (Noted Memory))) (terminal : Terminal) :
    Accounts (r, d) (r, { d with terminal }) :=
  .of_same (fun _ => rfl) r

private theorem accounts_removeOne (plan : Mishaps) (name : String) (style : Style)
    (dryRun : Bool) (r : Report) (key : String) (d : Desk (Fleet (Noted Memory))) :
    Accounts (r, d) (removeOne style dryRun (deskBucket (bucketOf plan name)) r key d) := by
  obtain ⟨a, -, -, h⟩ := attempts_removeOne plan name style dryRun r key d
  exact h.accounts

private theorem accounts_listing (plan : Mishaps) (name : String) (query : ListQuery)
    {answer : Except Fault Listed} {d d' : Desk (Fleet (Noted Memory))}
    (h : (deskBucket (bucketOf plan name)).serve (.list query) d = (answer, d')) (r : Report)
    {status : ExitStatus}
    (hstatus : status = .success ↔ r.status = .success ∧ answer.toBool = true) :
    Accounts (r, d) ({ r with status }, d') := by
  obtain ⟨answer', m, hserve, -⟩ := serve_bucketOf plan name (r := .list query) nofun d
  obtain ⟨rfl, rfl⟩ := Prod.mk.inj (h.symm.trans hserve)
  refine .of_extended name _ [] (fun _ => rfl) (List.append_nil _).symm ?_
  have hgranted : ListingsGranted [⟨.list query, answer⟩] ↔ answer.toBool = true := by
    constructor
    · intro h
      exact h _ (List.mem_singleton_self _) rfl
    · intro h e he _
      rw [List.mem_singleton.mp he]
      exact h
  rw [hgranted, eq_self_iff_true, true_and]
  exact hstatus

/-- A listing that is refused shows in the status only. -/
theorem accounts_removeBelow (plan : Mishaps) (name : String) (style : Style) (dryRun : Bool)
    (pageLimit : Nat) (target : Target) (r : Report) (d : Desk (Fleet (Noted Memory))) :
    Accounts (r, d)
      (removeBelow style dryRun (deskBucket (bucketOf plan name)) pageLimit target r d) := by
  have hpage : ∀ {query : ListQuery} {l : Listed} {d d' : Desk (Fleet (Noted Memory))},
      (deskBucket (bucketOf plan name)).serve (.list query) d = (.ok l, d') →
      ∀ r : Report, Accounts (r, d) (r, d') := fun hserve r =>
    accounts_listing plan name _ hserve r (and_iff_left rfl).symm
  unfold removeBelow
  have hfollows : (ListCursor.new ⟨target.key, "", 0, none⟩).Follows := ⟨none, rfl⟩
  rcases ListCursor.fold_leads
      (fun r e => removeOne style dryRun (deskBucket (bucketOf plan name)) r e.key) Accounts
      Accounts.refl Accounts.trans (fun e r d => accounts_removeOne plan name style dryRun r e.key d)
      hpage pageLimit hfollows r d with
    ⟨r', d', hfold, hsweep⟩ | ⟨query, why, r', d', d'', hfold, hsweep, hstop⟩
  · simp only [hfold]
    exact hsweep
  · -- The page that was refused is asked for after all that `hsweep` tells of.
    simp only [hfold]
    refine hsweep.trans (Accounts.trans ?_ (Accounts.terminal _ _ _))
    exact accounts_listing plan name query hstop r' (iff_of_false (exitStatus_ne_success _) nofun)

private theorem accounts_removePath (plan : Mishaps) (host : Host) (style : Style)
    (a : RemoveArguments) (path : String) (r : Report) (d : Desk (Fleet (Noted Memory))) :
    Accounts (r, d) (removePath (setting plan host) style a r path d) := by
  unfold removePath
  cases Target.parse path with
  | error e => exact .fail rfl r path (exitStatus_ne_success e)
  | ok target =>
    dsimp only
    split
    · exact .fail rfl r path nofun
    · rcases openBucket_cases plan host target with ⟨e, hopen⟩ | ⟨location, -, hopen⟩
      · rw [hopen]
        exact .fail rfl r path (exitStatus_ne_success e)
      · rw [hopen]
        dsimp only
        refine Accounts.trans (.of_same (recordOf_opened location.bucket) r) ?_
        split
        · exact accounts_removeBelow plan location.bucket style a.dryRun host.pageLimit target r _
        · exact accounts_removeOne plan location.bucket style a.dryRun r target.key _

private theorem accounts_removeAll (plan : Mishaps) (host : Host) (style : Style)
    (a : RemoveArguments) (d : Desk (Fleet (Noted Memory))) :
    Accounts (.start, d) (removeAll (setting plan host) style a d) :=
  foldlM_leads (fun _ => Accounts) Accounts.refl
    (accounts_removePath plan host style a) Accounts.trans a.paths .start d

/-- The command succeeds if it reports no failure, unless a page of a listing has been refused to
it: that makes it fail, and is not reported among the failures. -/
theorem execute_accounts (plan : Mishaps) (host : Host) (style : Style) (a : RemoveArguments)
    (d : Desk (Fleet (Noted Memory))) :
    let s := setting plan host
    let swept := removeAll s style a d
    let report := swept.1
    let out := (execute s style a).run d
    (style.json = true → out.2.terminal = swept.2.terminal.document (report.json a.dryRun)) ∧
    ∃ new : String → List Event,
      (∀ name, (recordOf out.2.services name).events =
        (recordOf d.services name).events ++ new name) ∧
      (out.1 = .exited .success ↔ report.failed = [] ∧ ∀ name, ListingsGranted (new name)) := by
  intro s swept report out
  obtain ⟨failed, new, hfailed, hevents, hstatus⟩ :=
    accounts_removeAll plan host style a d
  obtain rfl : report.failed = failed := hfailed
  refine ⟨terminal_execute s a d, new, fun name => ?_, ?_⟩
  · rw [services_execute]
    exact hevents name
  · exact (success_execute s style a d).trans (hstatus.trans (and_iff_right rfl))

/-- A listing that is refused is not reported among the failures, although it is one. -/
theorem execute_accounts_refused :
    let plan : Mishaps := fun _ r =>
      if r.operation = "ListObjectsV2" then some (.refused (.service "AccessDenied" none)) else none
    let s := setting plan .bare
    let a : RemoveArguments := ⟨["s3://b/d/"], true, false⟩
    let d : Desk (Fleet (Noted Memory)) := ⟨.absent, ∅, .blank⟩
    ((execute s .plain a).run d).1 ≠ .exited .success ∧ (removeAll s .plain a d).1.failed = [] := by
  decide +kernel

end BlobStore.Cli.Remove
