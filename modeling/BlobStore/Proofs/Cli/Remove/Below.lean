import BlobStore.Proofs.Cli.Remove.Attempts
import BlobStore.Proofs.Listing.Sweep

/-!
# Removing all below a key

The command that removes what it lists takes away the ground that its own listing stands on. It
nevertheless comes across each key once.
-/

namespace BlobStore.Cli.Remove

private theorem attempts_page {plan : Mishaps}
    (hlists : ∀ past query, plan.answer? past (.list query) = none) (name : String)
    (d : Desk (Fleet (Noted Memory))) {query : ListQuery} {l : Listed}
    (hl : (recordOf d.services name).state.list query = .ok l) :
    ∃ d', (deskBucket (bucketOf plan name)).serve (.list query) d = (.ok l, d') ∧
      ∀ r, Attempts name [] (r, d) (r, d') := by
  refine ⟨extended d name ⟨(recordOf d.services name).state, [⟨.list query, .ok l⟩]⟩, ?_, ?_⟩
  · rw [deskBucket_serve, Service.noted, hlists]
    simp only [Memory.serve, hl]
    rfl
  · intro r
    have hlisted : ListingsGranted [⟨.list query, .ok l⟩] := List.forall_mem_singleton.mpr fun _ => rfl
    exact .listed (List.forall_mem_singleton.mpr rfl) hlisted r d

/-- The attempts at some keys, in order. In a dry run there are none but in name. -/
def Goes (name : String) (dryRun : Bool) (keys : List String)
    (x y : Report × Desk (Fleet (Noted Memory))) : Prop :=
  ∃ attempts : List Attempt, attempts.map (·.key) = keys ∧ (∀ a ∈ attempts, a.isNamed = dryRun) ∧
    Attempts name attempts x y

private theorem sweeping_removeOne {plan : Mishaps}
    (hlists : ∀ past query, plan.answer? past (.list query) = none) (name : String) (style : Style)
    (dryRun : Bool) :
    ListCursor.Sweeping (deskBucket (bucketOf plan name)) (fun d => (recordOf d.services name).state)
      (fun r e => removeOne style dryRun (deskBucket (bucketOf plan name)) r e.key)
      (Goes name dryRun) where
  nil x := ⟨[], rfl, List.forall_mem_nil _, .same (fun _ => rfl) name x.1⟩
  append := by
    rintro _ _ x y z ⟨attempts, rfl, hnamed, hxy⟩ ⟨more, rfl, hnamed', hyz⟩
    refine ⟨attempts ++ more, List.map_append, ?_, hxy.trans hyz⟩
    exact fun a ha => (List.mem_append.mp ha).elim (hnamed a) (hnamed' a)
  step e r d := by
    obtain ⟨a, hkey, hnamed, ha⟩ := attempts_removeOne plan name style dryRun r e.key d
    exact ⟨[a], by rw [List.map_singleton, hkey], List.forall_mem_singleton.mpr hnamed, ha⟩
  removes := by
    rintro _ x y ⟨attempts, rfl, -, h⟩
    exact ⟨_, Attempts.removed_subset attempts, h.state⟩
  page {query d l} hl := by
    obtain ⟨d', hserve, hsame⟩ := attempts_page hlists name d hl
    exact ⟨d', hserve, fun r => ⟨[], rfl, List.forall_mem_nil _, hsame r⟩⟩

private theorem goes_removeBelow {plan : Mishaps}
    (hlists : ∀ past query, plan.answer? past (.list query) = none) (style : Style)
    (dryRun : Bool) (name : String) {pageLimit : Nat} (target : Target) (r : Report)
    (d : Desk (Fleet (Noted Memory)))
    (hlimit : pageCount 0 ((recordOf d.services name).state.below target.key).length ≤ pageLimit) :
    Goes name dryRun ((recordOf d.services name).state.below target.key) (r, d)
      (removeBelow style dryRun (deskBucket (bucketOf plan name)) pageLimit target r d) := by
  obtain ⟨r', d', hfold, hgoes⟩ :=
    (sweeping_removeOne hlists name style dryRun).fold_new target.key r d hlimit
  unfold removeBelow
  simp only [hfold]
  exact hgoes

private theorem removeAll_below {plan : Mishaps} (host : Host) (style : Style) (dryRun : Bool)
    {path : String} {target : Target}
    {location : Location} {d : Desk (Fleet (Noted Memory))} (hparse : Target.parse path = .ok target)
    (hlocate : locate d.config target = .ok location) :
    removeAll (setting plan host) style ⟨[path], true, dryRun⟩ d =
      removeBelow style dryRun (deskBucket (bucketOf plan location.bucket)) host.pageLimit target .start
        (extended d location.bucket ⟨(recordOf d.services location.bucket).state, []⟩) := by
  have hopen := openBucket_eq plan host hlocate
  have hpath : removePath (setting plan host) style ⟨[path], true, dryRun⟩
      .start path d = removeBelow style dryRun (deskBucket (bucketOf plan location.bucket)) host.pageLimit
        target .start
        (extended d location.bucket ⟨(recordOf d.services location.bucket).state, []⟩) := by
    simp only [removePath, hparse, Bool.not_true, Bool.and_false, Bool.false_eq_true, if_false, hopen,
      if_true]
    rfl
  exact hpath

private theorem goes_removeAll {plan : Mishaps}
    (hlists : ∀ past query, plan.answer? past (.list query) = none)
    (host : Host) (style : Style)
    (dryRun : Bool) {path : String} {target : Target} {location : Location}
    {d : Desk (Fleet (Noted Memory))} (hparse : Target.parse path = .ok target)
    (hlocate : locate d.config target = .ok location)
    (hlimit : pageCount 0
      ((recordOf d.services location.bucket).state.below target.key).length ≤ host.pageLimit) :
    Goes location.bucket dryRun ((recordOf d.services location.bucket).state.below target.key)
      (.start, d)
      (removeAll (setting plan host) style ⟨[path], true, dryRun⟩ d) := by
  let opened := extended d location.bucket ⟨(recordOf d.services location.bucket).state, []⟩
  have hopened : ∀ other, recordOf opened.services other = recordOf d.services other :=
    recordOf_opened location.bucket
  have hlimit' : pageCount 0
      ((recordOf opened.services location.bucket).state.below target.key).length ≤ host.pageLimit := by
    rwa [hopened]
  have hbelow := goes_removeBelow hlists style dryRun location.bucket target .start opened hlimit'
  rw [hopened] at hbelow
  obtain ⟨attempts, hkeys, hnamed, h⟩ := hbelow
  refine ⟨attempts, hkeys, hnamed, ?_⟩
  rw [removeAll_below host style dryRun hparse hlocate]
  exact (Attempts.same hopened location.bucket .start).trans h

/-- All keys have been tried, each of them once, and nothing else has changed. -/
structure Removed (bucket : String) (keys : List String) (attempts : List Attempt) (report : Report)
    (before after : Noted Memory) : Prop where
  tried : attempts.map (·.key) = keys
  earnest : ∀ a ∈ attempts, a.isNamed = false
  deleted : report.deleted = keysOf Attempt.isRemoved attempts
  failed : report.failed = keysOf (!·.isRemoved) attempts
  state : after.state = before.state.without report.deleted
  events : ∃ new, after.events = before.events ++ new ∧
    new.filter (!·.isListing) = attempts.flatMap (·.events bucket)

/-- All keys have been named, after listing them and nothing else. -/
structure Named (keys : List String) (report : Report) (before after : Noted Memory) : Prop where
  deleted : report.deleted = keys
  failed : report.failed = []
  state : after.state = before.state
  events : ∃ new, after.events = before.events ++ new ∧ ∀ e ∈ new, e.isListing = true

/-- The command that is to remove all below a target tries each stored key there once, in ascending
order, over as many pages as there are, whatever it has removed by then and whichever attempts come
to grief. What it reports is what has become of the keys, and the bucket has lost just those that
are reported as deleted. In a dry run the keys are listed and nothing more. -/
theorem execute_removes_below {plan : Mishaps}
    (hlists : ∀ past query, plan.answer? past (.list query) = none) (host : Host) (style : Style)
    (dryRun : Bool) {path : String} {target : Target} {location : Location}
    {d : Desk (Fleet (Noted Memory))} (hparse : Target.parse path = .ok target)
    (hlocate : locate d.config target = .ok location)
    (hlimit : pageCount 0
      ((recordOf d.services location.bucket).state.below target.key).length ≤ host.pageLimit) :
    let s := setting plan host
    let a : RemoveArguments := ⟨[path], true, dryRun⟩
    let swept := removeAll s style a d
    let report := swept.1
    let out := (execute s style a).run d
    let before := recordOf d.services location.bucket
    let after := recordOf out.2.services location.bucket
    let keys := before.state.below target.key
    keys.Pairwise (· < ·) ∧
    (dryRun = false → ∃ attempts, Removed location.bucket keys attempts report before after) ∧
    (dryRun = true → Named keys report before after) ∧
    (∀ other ≠ location.bucket, recordOf out.2.services other = recordOf d.services other) ∧
    (out.1 = .exited .success ↔ report.failed = []) ∧
    (style.json = true → out.2.terminal = swept.2.terminal.document (report.json dryRun)) := by
  intro s a swept report out before after keys
  obtain ⟨attempts, hkeys, hnamed, h⟩ :=
    goes_removeAll hlists host style dryRun hparse hlocate hlimit
  have hout : out.1 = .exited .success ↔ report.status = .success := success_execute s style a d
  have hservices : out.2.services = swept.2.services := services_execute s style a d
  obtain ⟨new, hnew, hrequests, -⟩ := h.events
  have hafter : after = recordOf swept.2.services location.bucket := by rw [← hservices]
  refine ⟨before.state.below_ascending _, ?_, ?_, ?_, ?_, ?_⟩
  · intro hrun
    have hearnest : ∀ a ∈ attempts, a.isNamed = false := fun a ha => (hnamed a ha).trans hrun
    have hdone : ∀ a ∈ attempts, a.isDone = a.isRemoved := fun a ha => by
      rw [Attempt.isDone, hearnest a ha, Bool.false_or]
    have hdeleted : report.deleted = keysOf Attempt.isRemoved attempts :=
      h.deleted.trans (keysOf_congr hdone)
    exact ⟨attempts,
      { tried := hkeys
        earnest := hearnest
        deleted := hdeleted
        failed := h.failed.trans (keysOf_congr fun a ha => congrArg not (hdone a ha))
        state := by rw [hafter, hdeleted]; exact h.state
        events := ⟨new, by rw [hafter]; exact hnew, hrequests⟩ }⟩
  · intro hrun
    have hall : ∀ a ∈ attempts, a.isNamed = true := fun a ha => (hnamed a ha).trans hrun
    have hdone : ∀ a ∈ attempts, a.isDone = true := fun a ha => by
      rw [Attempt.isDone, hall a ha, Bool.true_or]
    have hremoved : ∀ a ∈ attempts, a.isRemoved = false := fun a ha => by
      obtain ⟨key, rfl⟩ := Attempt.isNamed_iff.mp (hall a ha)
      rfl
    have hnone : attempts.flatMap (·.events location.bucket) = [] := by
      rw [List.flatMap_eq_nil_iff]
      intro a ha
      obtain ⟨key, rfl⟩ := Attempt.isNamed_iff.mp (hall a ha)
      rfl
    exact
      { deleted := h.deleted.trans ((keysOf_of_all hdone).trans hkeys)
        failed := h.failed.trans (keysOf_of_none fun a ha => by rw [hdone a ha]; rfl)
        state := by
          rw [hafter, h.state, keysOf_of_none hremoved]
          rfl
        events := by
          refine ⟨new, by rw [hafter]; exact hnew, ?_⟩
          rw [hnone, List.filter_eq_nil_iff] at hrequests
          simpa using hrequests }
  · intro other hne
    rw [hservices]
    exact h.others other hne
  · rw [hout, h.failed]
    exact h.status.trans (and_iff_right rfl)
  · exact terminal_execute s a d

/-- Three objects, two of them in a directory. -/
def drawer : Memory :=
  let object (key : String) : NewObject := ⟨⟨"b", key⟩, .none, none⟩
  ((Memory.empty.put (object "d/x") ⟨#[1]⟩).put (object "d/y") ⟨#[2]⟩).put (object "e") ⟨#[3]⟩

def drawerDesk : Desk (Fleet (Noted Memory)) := ⟨.absent, KeyMap.insert ∅ "b" ⟨drawer, []⟩, .blank⟩

/-- One of the objects cannot be deleted. -/
def keepsOne : Mishaps := fun _ r =>
  if r = .delete ⟨"b", "d/x"⟩ then some (.refused (.service "AccessDenied" none)) else none

def drawerSetting : Setting (Fleet (Noted Memory)) :=
  setting keepsOne .bare

theorem execute_removes_below_drawer :
    (((execute drawerSetting .plain ⟨["s3://b/d/"], true, false⟩).run drawerDesk).1 = .exited .success ↔
      (removeAll drawerSetting .plain ⟨["s3://b/d/"], true, false⟩ drawerDesk).1.failed = []) ∧
    ∃ attempts, Removed "b" ["d/x", "d/y"] attempts
      (removeAll drawerSetting .plain ⟨["s3://b/d/"], true, false⟩ drawerDesk).1 ⟨drawer, []⟩
      (recordOf ((execute drawerSetting .plain ⟨["s3://b/d/"], true, false⟩).run drawerDesk).2.services
        "b") := by
  have hlists : ∀ past query, keepsOne.answer? past (.list query) = none := fun _ _ => rfl
  have hparse : Target.parse "s3://b/d/" = .ok (.url "s3://b" "d/") := by decide +kernel
  have hlocate : locate drawerDesk.config (.url "s3://b" "d/") =
      .ok ⟨"b", none, none, false, false⟩ := by decide +kernel
  have hrecord : recordOf drawerDesk.services "b" = ⟨drawer, []⟩ := by
    rw [drawerDesk, recordOf, KeyMap.get?_insert_self, Option.getD_some]
  have hkeys : (recordOf drawerDesk.services "b").state.below "d/" = ["d/x", "d/y"] := by
    rw [hrecord]
    decide +kernel
  have hlimit : pageCount 0 ((recordOf drawerDesk.services "b").state.below "d/").length ≤ 1 := by
    rw [hkeys]
    exact (pageCount_last (by decide)).le
  obtain ⟨-, hremoved, -, -, hstatus, -⟩ := execute_removes_below hlists
    .bare .plain false hparse hlocate hlimit
  unfold drawerSetting
  rw [← hkeys, ← hrecord]
  exact ⟨hstatus, hremoved rfl⟩

end BlobStore.Cli.Remove
