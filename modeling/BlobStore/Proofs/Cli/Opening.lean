import BlobStore.Cli.Desk
import BlobStore.Fleet
import BlobStore.Memory
import BlobStore.Proofs.Action
import BlobStore.Proofs.KeyMap
import BlobStore.Proofs.Writer.Embedded

/-!
# Commands on buckets in memory

The buckets of a program that keeps all objects in memory, each with a record of what has been asked
of it. A command that works on a target parses it, finds its bucket and opens that; before that is
done nothing is asked of any bucket.
-/

namespace BlobStore

private theorem Location.assign_bucket {l l' : Location} {name value : String}
    (h : l.assign name value = .ok l') : l'.bucket = l.bucket := by
  unfold Location.assign at h
  repeat' split at h
  all_goals cases h <;> rfl

private theorem Location.bucket_ofUrl {url : Url} {l : Location} (h : Location.ofUrl url = .ok l) :
    url.scheme = scheme ∧ l.bucket = url.host ∧ l.bucket.isEmpty = false := by
  unfold Location.ofUrl at h
  split at h
  · cases h
  split at h
  · cases h
  · rename_i hscheme hhost
    have hfold : ∀ (pairs : List (String × String)) (start : Location),
        pairs.foldlM (fun l pair => l.assign pair.1 pair.2) start = .ok l →
        l.bucket = start.bucket := by
      intro pairs
      induction pairs with
      | nil =>
        rintro start ⟨⟩
        rfl
      | cons pair pairs ih =>
        intro start hrun
        rw [List.foldlM_cons] at hrun
        cases hnext : start.assign pair.1 pair.2 with
        | error e =>
          rw [hnext] at hrun
          cases hrun
        | ok next =>
          rw [hnext] at hrun
          exact (ih next hrun).trans (Location.assign_bucket hnext)
    rw [hfold _ _ h]
    exact ⟨Classical.not_not.mp hscheme, rfl, Bool.eq_false_iff.mpr hhost⟩

namespace Cli

theorem host_of_locate {config : ConfigFile} {target : Target} {l : Location}
    (h : locate config target = .ok l) :
    ∃ text url, bucketUrl config target = .ok text ∧ Url.parse text = .ok url ∧
      url.scheme = Location.scheme ∧ l.bucket = url.host ∧ l.bucket.isEmpty = false := by
  have hregistry : registry = .ok (KeyMap.insert ∅ Location.scheme Location.ofUrl) := rfl
  unfold locate at h
  rw [hregistry] at h
  cases htext : bucketUrl config target with
  | error e =>
    rw [htext] at h
    cases h
  | ok text =>
    rw [htext] at h
    change Registry.openUrl (KeyMap.insert ∅ Location.scheme Location.ofUrl) text = .ok l at h
    unfold Registry.openUrl at h
    split at h
    · cases h
    · rename_i url hurl
      split at h
      · cases h
      · rename_i opener hopener
        rw [KeyMap.get?_insert] at hopener
        split at hopener
        · obtain rfl := Option.some.inj hopener
          exact ⟨text, url, rfl, hurl, Location.bucket_ofUrl h⟩
        · cases hopener

theorem bucket_of_locate {config : ConfigFile} {target : Target} {l : Location}
    (h : locate config target = .ok l) : l.bucket.isEmpty = false := by
  obtain ⟨text, url, -, -, -, -, hname⟩ := host_of_locate h
  exact hname

/-- What a bucket has come to. One that has not been opened is fresh. -/
def recordOf (fleet : Fleet (Noted Memory)) (name : String) : Noted Memory :=
  (fleet.get? name).getD ⟨Memory.empty, []⟩

/-- Buckets in memory, with mishaps and with records of their requests. -/
def setting (plan : Mishaps) (host : Host) : Setting (Fleet (Noted Memory)) :=
  { toHost := host
    connect := Fleet.connect (Memory.serve.noted plan) ⟨Memory.empty, []⟩ }

/-- A host with no files and no input, on which one page of a listing may be asked for. -/
def Host.bare : Host where
  openFile := fun _ => .error .notFound
  input := .ofBytes .empty
  mediaType := fun _ => none
  schedule := .sequential
  build := .checked
  pageLimit := 1

private theorem recordOf_insert (fleet : Fleet (Noted Memory)) (name other : String)
    (x : Noted Memory) :
    recordOf (fleet.insert name x) other = if other = name then x else recordOf fleet other := by
  rw [recordOf, KeyMap.get?_insert]
  split <;> rfl

theorem exitStatus_ne_success (e : Error) : e.exitStatus ≠ .success := by
  cases e with
  | backend errorClass => cases errorClass <;> exact nofun
  | _ => exact nofun

variable {plan : Mishaps} {host : Host} {style : Style} {d : Desk (Fleet (Noted Memory))}

/-- A step that ends the command before anything is asked of a service. -/
def Stops {α : Type} (step : Step (Fleet (Noted Memory)) α) (d : Desk (Fleet (Noted Memory))) : Prop :=
  ∃ status d', step d = (.error (.exited status), d') ∧ status ≠ .success ∧ d'.services = d.services

theorem Stops.run {step : Step (Fleet (Noted Memory)) ExitStatus} (h : Stops step d) :
    (step.run d).1 ≠ .exited .success ∧ (step.run d).2.services = d.services := by
  obtain ⟨status, d', hstep, hne, hservices⟩ := h
  rw [Step.run, hstep]
  exact ⟨fun h => hne (Outcome.exited.inj h), hservices⟩

private theorem stops_fail {α : Type} (context : String) (e : Error) :
    Stops (Step.fail style context e : Step _ α) d :=
  ⟨_, _, rfl, exitStatus_ne_success e, rfl⟩

theorem accept_of_ok {σ α : Type} (context : String) {r : Except Error α} {a : α} (h : r = .ok a)
    (d : Desk σ) : (Step.accept style context r : Step σ α) d = (.ok a, d) := by
  rw [h]
  rfl

theorem attempt_of_ok {σ α : Type} (context : String) {action : Action (Desk σ) α} {a : α}
    {d d' : Desk σ} (h : action d = (.ok a, d')) :
    Step.attempt style context action d = (.ok a, d') := by
  rw [Step.attempt, h]

theorem attempt_of_error {α : Type} (context : String)
    {action : Action (Desk (Fleet (Noted Memory))) α} {e : Error} {d' : Desk (Fleet (Noted Memory))}
    (h : action d = (.error e, d')) :
    Step.attempt style context action d = Step.fail style context e d' := by
  rw [Step.attempt, h]

private theorem stops_attempt {α : Type} (context : String)
    {action : Action (Desk (Fleet (Noted Memory))) α} {e : Error} (h : action d = (.error e, d)) :
    Stops (Step.attempt style context action) d := by
  unfold Stops
  rw [attempt_of_error context h]
  exact stops_fail context e

theorem Stops.bind {α β : Type} {step : Step (Fleet (Noted Memory)) α} (h : Stops step d)
    (f : α → Step (Fleet (Noted Memory)) β) : Stops (step >>= f) d := by
  obtain ⟨status, d', hstep, hne, hservices⟩ := h
  exact ⟨status, d', bind_of_error hstep f, hne, hservices⟩

theorem Stops.after {α β : Type} {step : Step (Fleet (Noted Memory)) α} {a : α}
    (hstep : step d = (.ok a, d)) {f : α → Step (Fleet (Noted Memory)) β} (h : Stops (f a) d) :
    Stops (step >>= f) d := by
  obtain ⟨status, d', hf, hne, hservices⟩ := h
  exact ⟨status, d', (bind_of_ok hstep f).trans hf, hne, hservices⟩

/-- A bucket of the fleet. -/
abbrev bucketOf (plan : Mishaps) (name : String) : Bucket (Fleet (Noted Memory)) :=
  ⟨name, Fleet.serve (Memory.serve.noted plan) ⟨Memory.empty, []⟩ name⟩

/-- A desk on which the record of one bucket has gone on. -/
def extended (d : Desk (Fleet (Noted Memory))) (name : String) (x : Noted Memory) :
    Desk (Fleet (Noted Memory)) :=
  { d with services :=
      d.services.insert name ⟨x.state, (recordOf d.services name).events ++ x.events⟩ }

theorem deskBucket_serve (r : Request) : (deskBucket (bucketOf plan name)).serve r d =
    ((Memory.serve.noted plan r (recordOf d.services name)).1,
      { d with
        services := d.services.insert name (Memory.serve.noted plan r (recordOf d.services name)).2 }) :=
  rfl

theorem serve_bucketOf (plan : Mishaps) (name : String) {r : Request}
    (hr : ∀ address headers, r ≠ .createUpload address headers) (d : Desk (Fleet (Noted Memory))) :
    ∃ answer m, (deskBucket (bucketOf plan name)).serve r d =
        (answer, extended d name ⟨m, [⟨r, answer⟩]⟩) ∧
      ((∃ why, answer = .error why ∧ m = (recordOf d.services name).state) ∨
        Memory.serve r (recordOf d.services name).state = (answer, m)) := by
  rcases Memory.serve.noted_cases plan hr (recordOf d.services name) with ⟨why, h⟩ | h
  · exact ⟨.error why, _, by rw [deskBucket_serve, h]; rfl, .inl ⟨why, rfl, rfl⟩⟩
  · exact ⟨_, _, by rw [deskBucket_serve, h]; rfl, .inr rfl⟩

theorem extended_extended (d : Desk (Fleet (Noted Memory))) (name : String) (x y : Noted Memory) :
    extended (extended d name x) name y = extended d name ⟨y.state, x.events ++ y.events⟩ := by
  unfold extended
  simp only [recordOf_insert, if_true, KeyMap.insert_insert, List.append_assoc]

theorem openBucket_of_connect {σ : Type} {s : Setting σ} {d : Desk σ} {target : Target}
    {location : Location} {b : Bucket σ} {services : σ} (hlocate : locate d.config target = .ok location)
    (hconnect : s.connect location d.services = (.ok b, services)) :
    openBucket s target d = (.ok (deskBucket b), { d with services }) := by
  have hservices : onServices (s.connect location) d = (.ok b, { d with services }) := by
    rw [onServices, hconnect]
  rw [openBucket, hlocate]
  exact bind_of_ok hservices _

variable (plan host) in
theorem openBucket_eq {target : Target} {location : Location}
    (hlocate : locate d.config target = .ok location) :
    openBucket (setting plan host) target d =
      (.ok (deskBucket (bucketOf plan location.bucket)),
        extended d location.bucket ⟨(recordOf d.services location.bucket).state, []⟩) := by
  have hname := bucket_of_locate hlocate
  have hconnect : (setting plan host).connect location d.services =
      (.ok (bucketOf plan location.bucket),
        d.services.insert location.bucket (recordOf d.services location.bucket)) := by
    simp only [setting, Fleet.connect, Bucket.open?, hname, Bool.false_eq_true, if_false]
    rfl
  rw [openBucket_of_connect hlocate hconnect]
  simp only [extended, List.append_nil]

variable (plan host) in
theorem openBucket_cases (target : Target) :
    (∃ e, openBucket (setting plan host) target d = (.error e, d)) ∨
      ∃ location, locate d.config target = .ok location ∧
        openBucket (setting plan host) target d =
          (.ok (deskBucket (bucketOf plan location.bucket)),
            extended d location.bucket ⟨(recordOf d.services location.bucket).state, []⟩) := by
  cases hlocate : locate d.config target with
  | error e =>
    refine Or.inl ⟨e, ?_⟩
    rw [openBucket, hlocate]
  | ok location => exact Or.inr ⟨location, rfl, openBucket_eq plan host hlocate⟩

variable (plan host) in
theorem resolveObject_eq {path : String} {target : Target} {location : Location}
    (hparse : Target.parse path = .ok target) (hkey : target.key.isEmpty = false)
    (hlocate : locate d.config target = .ok location) :
    resolveObject (setting plan host) style path d =
      (.ok (target, deskBucket (bucketOf plan location.bucket)),
        extended d location.bucket ⟨(recordOf d.services location.bucket).state, []⟩) := by
  unfold resolveObject
  refine (bind_of_ok (accept_of_ok "Invalid target" hparse d) _).trans ?_
  simp only [hkey, Bool.false_eq_true, if_false]
  exact bind_of_ok (attempt_of_ok _ (openBucket_eq plan host hlocate)) _

variable (plan host style d) in
/-- A target that has been resolved, up to the first request. -/
theorem resolveObject_cases (path : String) :
    Stops (resolveObject (setting plan host) style path) d ∨
      ∃ target location, Target.parse path = .ok target ∧ target.key.isEmpty = false ∧
        locate d.config target = .ok location ∧
        resolveObject (setting plan host) style path d =
          (.ok (target, deskBucket (bucketOf plan location.bucket)),
            extended d location.bucket ⟨(recordOf d.services location.bucket).state, []⟩) := by
  cases hparse : Target.parse path with
  | error e =>
    unfold resolveObject
    rw [hparse]
    exact Or.inl ((stops_fail _ e).bind _)
  | ok target =>
    have haccept : (Step.accept style "Invalid target" (.ok target) :
      Step (Fleet (Noted Memory)) Target) d = (.ok target, d) := rfl
    cases hkey : target.key.isEmpty with
    | true =>
      unfold resolveObject
      rw [hparse]
      refine Or.inl (Stops.after haccept ?_)
      simp only [hkey, if_true]
      exact ⟨.usage, _, rfl, nofun, rfl⟩
    | false =>
      rcases openBucket_cases plan host target with ⟨e, hopen⟩ | ⟨location, hlocate, -⟩
      · unfold resolveObject
        rw [hparse]
        refine Or.inl (Stops.after haccept ?_)
        simp only [hkey, Bool.false_eq_true, if_false]
        exact (stops_attempt _ hopen).bind _
      · exact Or.inr ⟨target, location, rfl, hkey, hlocate,
          resolveObject_eq plan host hparse hkey hlocate⟩

theorem recordOf_extended (name other : String) (x : Noted Memory) :
    recordOf (extended d name x).services other =
      if other = name then ⟨x.state, (recordOf d.services name).events ++ x.events⟩
      else recordOf d.services other :=
  recordOf_insert _ _ _ _

theorem recordOf_opened (name other : String) :
    recordOf (extended d name ⟨(recordOf d.services name).state, []⟩).services other =
      recordOf d.services other := by
  rw [recordOf_extended, List.append_nil]
  split
  · rename_i h
    rw [h]
  · rfl

end Cli

end BlobStore
