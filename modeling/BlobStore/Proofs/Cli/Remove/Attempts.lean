import BlobStore.Cli.Remove
import BlobStore.Proofs.Bucket.Absence
import BlobStore.Proofs.Cli.Opening
import BlobStore.Proofs.Listing.Sweep

/-!
# Attempts at removing

To remove an object is to ask for it first and to have it deleted then, and either may come to
grief. What a run of the command reports and what it leaves of a bucket is told by the attempts
that it makes, one after the other.
-/

namespace BlobStore.Cli.Remove

/-- What has come of one key. -/
inductive Attempt where
  /-- In a dry run a key is only named. -/
  | named (key : String)
  | missed (key : String) (why : Fault)
  | kept (key : String) (head : Head) (why : Fault)
  | removed (key : String) (head : Head)

namespace Attempt

def key : Attempt → String
  | .named key => key
  | .missed key _ => key
  | .kept key _ _ => key
  | .removed key _ => key

def isNamed : Attempt → Bool
  | .named _ => true
  | _ => false

def isRemoved : Attempt → Bool
  | .removed _ _ => true
  | _ => false

def isDone (a : Attempt) : Bool := a.isNamed || a.isRemoved

theorem isNamed_iff {a : Attempt} : a.isNamed = true ↔ ∃ key, a = .named key := by
  cases a <;> simp [isNamed]

/-- The requests that were made, with their answers. -/
def events (bucket : String) : Attempt → List Event
  | .named _ => []
  | .missed key why => [⟨.head ⟨bucket, key⟩, .error why⟩]
  | .kept key head why => [⟨.head ⟨bucket, key⟩, .ok head⟩, ⟨.delete ⟨bucket, key⟩, .error why⟩]
  | .removed key head => [⟨.head ⟨bucket, key⟩, .ok head⟩, ⟨.delete ⟨bucket, key⟩, .ok ()⟩]

end Attempt

/-- The keys of the attempts of one kind, in order. -/
def keysOf (kind : Attempt → Bool) (attempts : List Attempt) : List String :=
  (attempts.filter kind).map (·.key)

theorem keysOf_of_all {kind : Attempt → Bool} {attempts : List Attempt}
    (h : ∀ a ∈ attempts, kind a = true) : keysOf kind attempts = attempts.map (·.key) := by
  rw [keysOf, List.filter_eq_self.mpr h]

theorem keysOf_of_none {kind : Attempt → Bool} {attempts : List Attempt}
    (h : ∀ a ∈ attempts, kind a = false) : keysOf kind attempts = [] := by
  rw [keysOf, List.filter_eq_nil_iff.mpr fun a ha => by rw [h a ha]; exact Bool.false_ne_true,
    List.map_nil]

theorem keysOf_congr {kind kind' : Attempt → Bool} {attempts : List Attempt}
    (h : ∀ a ∈ attempts, kind a = kind' a) : keysOf kind attempts = keysOf kind' attempts := by
  rw [keysOf, List.filter_congr h, keysOf]

variable {name : String}

private theorem delete_bucketOf (plan : Mishaps) (name key : String)
    (d : Desk (Fleet (Noted Memory))) :
    ∃ (a : Attempt) (result : Except Error Unit),
      (deskBucket (bucketOf plan name)).delete key d = (result, extended d name
        ⟨(recordOf d.services name).state.without (keysOf Attempt.isRemoved [a]), a.events name⟩) ∧
      a.key = key ∧ a.isNamed = false ∧ (result = .ok () ↔ a.isRemoved = true) := by
  -- Only the start of an upload may be refused and yet be carried out. A refusal of either request
  -- here leaves the memory as it was.
  obtain ⟨answer, m, hhead, hm⟩ := serve_bucketOf plan name (r := .head ⟨name, key⟩) nofun d
  obtain rfl : m = (recordOf d.services name).state := by
    rcases hm with ⟨why, -, hm⟩ | hm
    · exact hm
    · exact (congrArg Prod.snd hm).symm
  cases answer with
  | error why =>
    exact ⟨.missed key why, _, Bucket.delete_of_missed hhead, rfl, rfl, nofun, nofun⟩
  | ok head =>
    obtain ⟨answer, m, hgone, hm⟩ := serve_bucketOf plan name (r := .delete ⟨name, key⟩) nofun
      (extended d name ⟨(recordOf d.services name).state, [⟨.head ⟨name, key⟩, .ok head⟩]⟩)
    rw [extended_extended] at hgone
    rw [recordOf_extended, if_pos rfl] at hm
    have hfound := Bucket.delete_of_found hhead
    cases answer with
    | error why =>
      obtain rfl : m = (recordOf d.services name).state := by
        rcases hm with ⟨_, -, hm⟩ | hm
        · exact hm
        · cases hm
      exact ⟨.kept key head why, _, hfound.trans (Bucket.request_of_refused hgone), rfl, rfl, nofun,
        nofun⟩
    | ok =>
      obtain rfl : (recordOf d.services name).state.without [key] = m := by
        rcases hm with ⟨_, hm, -⟩ | hm
        · cases hm
        · exact congrArg Prod.snd hm
      exact ⟨.removed key head, _, hfound.trans (Bucket.request_of_granted hgone), rfl, rfl,
        fun _ => rfl, fun _ => rfl⟩

/-- What a run of the command has come to, by the attempts that it made on one bucket. No listing
has been refused to it. -/
structure Attempts (name : String) (attempts : List Attempt)
    (x y : Report × Desk (Fleet (Noted Memory))) : Prop where
  deleted : y.1.deleted = x.1.deleted ++ keysOf Attempt.isDone attempts
  failed : y.1.failed = x.1.failed ++ keysOf (!·.isDone) attempts
  status : y.1.status = .success ↔ x.1.status = .success ∧ keysOf (!·.isDone) attempts = []
  state : (recordOf y.2.services name).state =
    (recordOf x.2.services name).state.without (keysOf Attempt.isRemoved attempts)
  events : ∃ new, (recordOf y.2.services name).events = (recordOf x.2.services name).events ++ new ∧
    new.filter (!·.isListing) = attempts.flatMap (·.events name) ∧ ListingsGranted new
  others : ∀ other ≠ name, recordOf y.2.services other = recordOf x.2.services other

namespace Attempts

variable {x y z : Report × Desk (Fleet (Noted Memory))} {attempts more : List Attempt}

theorem of_extended {r r' : Report} {d d' : Desk (Fleet (Noted Memory))} (new : List Event)
    (hrecord : ∀ other, recordOf d'.services other = recordOf (extended d name
      ⟨(recordOf d.services name).state.without (keysOf Attempt.isRemoved attempts),
        new⟩).services other)
    (hdeleted : r'.deleted = r.deleted ++ keysOf Attempt.isDone attempts)
    (hfailed : r'.failed = r.failed ++ keysOf (!·.isDone) attempts)
    (hstatus : r'.status = .success ↔ r.status = .success ∧ keysOf (!·.isDone) attempts = [])
    (hrequests : new.filter (!·.isListing) = attempts.flatMap (·.events name))
    (hlisted : ListingsGranted new) : Attempts name attempts (r, d) (r', d') := by
  have hself := hrecord name
  rw [recordOf_extended, if_pos rfl] at hself
  exact
    { deleted := hdeleted
      failed := hfailed
      status := hstatus
      state := by rw [hself]
      events := ⟨new, by rw [hself], hrequests, hlisted⟩
      others := fun other hne => by rw [hrecord, recordOf_extended, if_neg hne] }

/-- Listing is no attempt. -/
theorem listed {new : List Event} (hlisting : ∀ e ∈ new, e.isListing = true)
    (hlisted : ListingsGranted new) (r : Report) (d : Desk (Fleet (Noted Memory))) :
    Attempts name [] (r, d) (r, extended d name ⟨(recordOf d.services name).state, new⟩) := by
  refine .of_extended new (fun _ => rfl) (List.append_nil _).symm (List.append_nil _).symm
    (and_iff_left rfl).symm ?_ hlisted
  rw [List.flatMap_nil, List.filter_eq_nil_iff]
  exact fun e he => by rw [hlisting e he]; exact Bool.false_ne_true

theorem same {d d' : Desk (Fleet (Noted Memory))}
    (hrecord : ∀ other, recordOf d'.services other = recordOf d.services other) (name : String)
    (r : Report) : Attempts name [] (r, d) (r, d') :=
  .of_extended [] (fun other => (hrecord other).trans (recordOf_opened name other).symm)
    (List.append_nil _).symm (List.append_nil _).symm (and_iff_left rfl).symm rfl
    (List.forall_mem_nil _)

theorem trans (hxy : Attempts name attempts x y) (hyz : Attempts name more y z) :
    Attempts name (attempts ++ more) x z := by
  have hkeys : ∀ kind, keysOf kind (attempts ++ more) = keysOf kind attempts ++ keysOf kind more := by
    intro kind
    rw [keysOf, List.filter_append, List.map_append]
    rfl
  obtain ⟨new, hnew, hrequests, hlisted⟩ := hxy.events
  obtain ⟨new', hnew', hrequests', hlisted'⟩ := hyz.events
  exact
    { deleted := by rw [hyz.deleted, hxy.deleted, hkeys, List.append_assoc]
      failed := by rw [hyz.failed, hxy.failed, hkeys, List.append_assoc]
      status := by rw [hyz.status, hxy.status, hkeys, List.append_eq_nil_iff, and_assoc]
      state := by rw [hyz.state, hxy.state, hkeys, Memory.without_append]
      events := by
        refine ⟨new ++ new', ?_, ?_, ?_⟩
        · rw [hnew', hnew, List.append_assoc]
        · rw [List.filter_append, hrequests, hrequests', List.flatMap_append]
        · exact listingsGranted_append.mpr ⟨hlisted, hlisted'⟩
      others := fun other hne => (hyz.others other hne).trans (hxy.others other hne) }

theorem single (a : Attempt) {r r' : Report} {d d' : Desk (Fleet (Noted Memory))}
    (hrecord : ∀ other, recordOf d'.services other = recordOf (extended d name
      ⟨(recordOf d.services name).state.without (keysOf Attempt.isRemoved [a]),
        a.events name⟩).services other)
    (hreport : (a.isDone = true ∧ r' = r.succeed a.key) ∨
      a.isDone = false ∧ ∃ status ≠ .success, r' = r.fail a.key status) :
    Attempts name [a] (r, d) (r', d') := by
  have hfields : r'.deleted = r.deleted ++ keysOf Attempt.isDone [a] ∧
      r'.failed = r.failed ++ keysOf (!·.isDone) [a] ∧
      (r'.status = .success ↔ r.status = .success ∧ keysOf (!·.isDone) [a] = []) := by
    rcases hreport with ⟨hdone, rfl⟩ | ⟨hdone, status, hstatus, rfl⟩
    · simp [keysOf, hdone, Report.succeed]
    · simp [keysOf, hdone, Report.fail, hstatus]
  obtain ⟨hdeleted, hfailed, hstatus⟩ := hfields
  have hrequests : ∀ e ∈ a.events name, e.isListing = false := by
    cases a <;> simp [Attempt.events, Event.isListing]
  refine .of_extended (a.events name) hrecord hdeleted hfailed hstatus ?_ ?_
  · rw [List.flatMap_singleton, List.filter_eq_self]
    exact fun e he => by rw [hrequests e he]; rfl
  · exact fun e he hlisting => absurd hlisting (by rw [hrequests e he]; exact nofun)

theorem removed_subset (attempts : List Attempt) :
    keysOf Attempt.isRemoved attempts ⊆ attempts.map (·.key) :=
  List.map_subset _ List.filter_sublist.subset

end Attempts

theorem attempts_removeOne (plan : Mishaps) (name : String) (style : Style) (dryRun : Bool)
    (r : Report) (key : String) (d : Desk (Fleet (Noted Memory))) :
    ∃ a : Attempt, a.key = key ∧ a.isNamed = dryRun ∧
      Attempts name [a] (r, d) (removeOne style dryRun (deskBucket (bucketOf plan name)) r key d) := by
  cases dryRun with
  | true =>
    refine ⟨.named key, rfl, rfl, ?_⟩
    rw [removeOne, if_pos rfl]
    exact .single (.named key) (fun other => (recordOf_opened name other).symm) (.inl ⟨rfl, rfl⟩)
  | false =>
    obtain ⟨a, result, hdelete, hkey, hnamed, hresult⟩ := delete_bucketOf plan name key d
    refine ⟨a, hkey, hnamed, ?_⟩
    have hdone : a.isDone = a.isRemoved := by rw [Attempt.isDone, hnamed, Bool.false_or]
    rw [removeOne, if_neg Bool.false_ne_true, hdelete]
    cases result with
    | ok =>
      refine .single a (fun _ => rfl) (.inl ⟨hdone.trans (hresult.mp rfl), ?_⟩)
      rw [hkey]
    | error e =>
      have hkept : a.isRemoved = false := by
        rw [Bool.eq_false_iff]
        exact fun h => nomatch hresult.mpr h
      refine .single a (fun _ => rfl)
        (.inr ⟨hdone.trans hkept, e.exitStatus, exitStatus_ne_success e, ?_⟩)
      rw [hkey]

theorem run_execute {σ : Type} (s : Setting σ) (style : Style) (a : RemoveArguments) (d : Desk σ) :
    (execute s style a).run d = (.exited (removeAll s style a d).1.status,
      if style.json then
        { (removeAll s style a d).2 with terminal :=
            (removeAll s style a d).2.terminal.document ((removeAll s style a d).1.json a.dryRun) }
      else (removeAll s style a d).2) := by
  cases hjson : style.json <;> simp only [execute, hjson] <;> rfl

theorem success_execute {σ : Type} (s : Setting σ) (style : Style) (a : RemoveArguments) (d : Desk σ) :
    ((execute s style a).run d).1 = .exited .success ↔ (removeAll s style a d).1.status = .success := by
  rw [run_execute, Outcome.exited.injEq]

theorem terminal_execute {σ : Type} (s : Setting σ) {style : Style} (a : RemoveArguments) (d : Desk σ)
    (hjson : style.json = true) : ((execute s style a).run d).2.terminal =
      (removeAll s style a d).2.terminal.document ((removeAll s style a d).1.json a.dryRun) := by
  rw [run_execute, if_pos hjson]

theorem services_execute {σ : Type} (s : Setting σ) (style : Style) (a : RemoveArguments) (d : Desk σ) :
    ((execute s style a).run d).2.services = (removeAll s style a d).2.services := by
  rw [run_execute]
  cases style.json <;> rfl

end BlobStore.Cli.Remove
