import BlobStore.Proofs.Memory.Pending
import BlobStore.Proofs.Upload.Account

/-!
# Uploads fail as a whole

Against the service in memory, with any of the requests coming to grief, an upload stores its whole
body or changes no object. One that has failed is aborted if it had got a name, so that unless the
abort comes to grief as well no unfinished upload is left behind.
-/

namespace BlobStore.Upload

variable {plan : Mishaps} {m t : Memory} {object : NewObject} {p : Nat} {read : ByteArray}

private theorem unmissed {past : List Event} {r : Request} {reply : r.Reply}
    (hn : ∀ address headers, r ≠ .createUpload address headers) :
    plan.answer? past r ≠ some (.ok reply) := by
  intro hm
  rcases Mishaps.answer?_eq_some (e := ⟨r, .ok reply⟩) hm with ⟨why, ha⟩ | ⟨address, headers, he⟩
  · cases ha
  · exact hn address headers (congrArg Event.request he)

private theorem trail_unnamed {ended : Bool} {events : List Event}
    (hg : GivenUp object ended none events) (h : Service.Trail Memory.serve plan m events t) :
    t = m := by
  cases hg with
  | unstarted => exact h.nil
  | put | create | unnamed =>
    rcases Service.Trail.single h with ⟨_, rfl⟩ | ⟨-, ha, _⟩
    · rfl
    · cases ha

theorem trail_named {ended : Bool} {id : String} {events : List Event} (hm : m.Issued)
    (hg : GivenUp object ended (some id) events)
    (h : Service.Trail Memory.serve plan m events t) :
    t.objects = m.objects ∧ t.uploads.erase id = m.uploads := by
  cases hg with
  | opened =>
    obtain ⟨rfl, rfl⟩ := Memory.trail_opened h
    exact ⟨rfl, Memory.erase_holding hm _ _⟩
  | part =>
    obtain ⟨u, hu, hlast⟩ := h.last
    obtain ⟨rfl, rfl⟩ := Memory.trail_opened hu
    rcases hlast with ⟨_, rfl⟩ | ⟨-, ha, _⟩
    · exact ⟨rfl, Memory.erase_holding hm _ _⟩
    · simp only [Memory.serve, Memory.uploadPart_holding] at ha
      cases ha
  | complete =>
    obtain ⟨u, hu, hlast⟩ := h.last
    obtain ⟨rfl, rfl⟩ := Memory.trail_opened hu
    rcases hlast with ⟨_, rfl⟩ | ⟨-, ha, rfl⟩
    · exact ⟨rfl, Memory.erase_holding hm _ _⟩
    · -- The memory forgets an upload that it cannot complete.
      simp only [Memory.serve, Memory.completeUpload, Memory.get?_holding] at ha ⊢
      split
      · refine ⟨rfl, ?_⟩
        rw [Memory.erase_holding hm, KeyMap.erase_of_absent hm.fresh]
      · rename_i hj
        rw [hj] at ha
        cases ha

theorem objects_of_givenUp {ended : Bool} {id? : Option String} {events : List Event}
    (hm : m.Issued) (hg : GivenUp object ended id? events)
    (h : Service.Trail Memory.serve plan m events t) : t.objects = m.objects := by
  cases id? with
  | none => rw [trail_unnamed hg h]
  | some id => exact (trail_named hm hg h).1

/-- An upload that has stored nothing leaves nothing behind, unless its abort comes to grief. -/
theorem trail_abandoned {ended : Bool} {events : List Event} (hm : m.Issued)
    (ha : Abandoned object ended events) (h : Service.Trail Memory.serve plan m events t) :
    t.objects = m.objects ∧
      ((∀ e ∈ events, e.abortedId?.isSome → e.isGranted) → t.uploads = m.uploads) := by
  cases ha with
  | early hg =>
    obtain rfl := trail_unnamed hg h
    exact ⟨rfl, fun _ => rfl⟩
  | @aborted id before answer hg =>
    obtain ⟨u, hu, hlast⟩ := h.last
    obtain ⟨hobjects, huploads⟩ := trail_named hm hg hu
    rcases hlast with ⟨hmishap, rfl⟩ | ⟨-, _, rfl⟩
    · refine ⟨hobjects, fun hgranted => ?_⟩
      have hg := hgranted ⟨.abortUpload object.address id, answer⟩ (by simp) rfl
      rcases Mishaps.answer?_eq_some hmishap with ⟨why, ha⟩ | ⟨address, headers, he⟩
      · simp only at ha
        rw [ha] at hg
        cases hg
      · cases he
    · exact ⟨hobjects, fun _ => huploads⟩

theorem trail_put (h : Service.Trail Memory.serve plan m [⟨.put object (.ofBytes read), .ok ()⟩] t) :
    t = m.put object read := by
  rcases Service.Trail.single h with ⟨hmishap, _⟩ | ⟨-, -, rfl⟩
  · exact absurd hmishap (unmissed (by simp))
  · rfl

theorem trail_completed {id : String} {parts : List SentPart} {sent : Array PartReceipt}
    (hm : m.Issued) (hsent : sent.toList = parts.map (·.receipt))
    (hnumbered : SentPart.Numbered parts)
    (h : Service.Trail Memory.serve plan m
      (opened object id parts ++ [⟨.completeUpload object.address id sent, .ok ()⟩]) t) :
    t = { m with
      started := m.started + 1
      objects := m.objects.insert object.address.key
        { data := SentPart.joined parts
          etag := Memory.partedTag (SentPart.joined parts) parts.length
          headers := object.headers
          contentMd5 := none } } := by
  obtain ⟨u, hu, hlast⟩ := h.last
  obtain ⟨rfl, rfl⟩ := Memory.trail_opened hu
  rcases hlast with ⟨hmishap, _⟩ | ⟨-, -, rfl⟩
  · exact absurd hmishap (unmissed (by simp))
  · simp only [Memory.serve, Memory.completeUpload, Memory.get?_holding, hsent,
      Memory.joinParts_numbered hnumbered, Memory.erase_holding hm, List.length_map]
    rfl

/-- What has been stored is an object with the bytes read; the upload is gone. The tag tells whether
the bytes went out whole or in parts. -/
theorem trail_stored_tagged {events : List Event} (hm : m.Issued) (hs : Stored object p read events)
    (h : Service.Trail Memory.serve plan m events t) :
    ∃ o : StoredObject, o.data = read ∧ o.headers = object.headers ∧
      t.objects = m.objects.insert object.address.key o ∧ t.uploads = m.uploads ∧
      (read.size ≤ p ∧ o.etag = Memory.wholeTag read ∨
        p < read.size ∧ ∃ parts, o.etag = Memory.partedTag read parts) := by
  cases hs with
  | whole hsize =>
    obtain rfl := trail_put h
    exact ⟨_, rfl, rfl, rfl, rfl, Or.inl ⟨hsize, rfl⟩⟩
  | inParts hsent hnumbered _ _ hsize hjoined =>
    obtain rfl := trail_completed hm hsent hnumbered h
    exact ⟨_, hjoined, rfl, rfl, rfl, Or.inr ⟨hsize, _, by rw [hjoined]⟩⟩

theorem trail_stored {events : List Event} (hm : m.Issued) (hs : Stored object p read events)
    (h : Service.Trail Memory.serve plan m events t) :
    ∃ o : StoredObject, o.data = read ∧ o.headers = object.headers ∧
      t.objects = m.objects.insert object.address.key o ∧ t.uploads = m.uploads := by
  obtain ⟨o, hdata, hheaders, hobjects, huploads, -⟩ := trail_stored_tagged hm hs h
  exact ⟨o, hdata, hheaders, hobjects, huploads⟩

/-- What is left once an upload of a body into the memory `m` has failed. -/
structure RolledBack (object : NewObject) (p : Nat) (body : ByteArray) (m : Memory) (why : Fault)
    (x : Noted Memory) : Prop where
  objects : x.state.objects = m.objects
  /-- The fault is the one that stopped the upload; nothing but the abort comes after that. -/
  stopped : ∃ id? before aborts, x.events = before ++ aborts ∧
    Stopped object p body id? before why ∧
    aborts.map Event.request = (id?.map (Request.abortUpload object.address)).toList
  /-- It has been aborted once if it was given a name, and under that name. -/
  aborted : ∃ id? : Option String, x.events.filterMap Event.createdId? = id?.toList ∧
    x.events.filterMap Event.abortedId? = id?.toList
  uploads : (∀ e ∈ x.events, e.abortedId?.isSome → e.isGranted) → x.state.uploads = m.uploads

private theorem rolledBack_of_failed {body : ByteArray} {x : Noted Memory} {why : Fault}
    (hm : m.Issued) (hle : read.size ≤ body.size) (hf : Failed object p read x.events why)
    (h : Service.Trail Memory.serve plan m x.events x.state) :
    RolledBack object p body m why x where
  objects := (trail_abandoned hm hf.abandoned h).1
  stopped := by
    generalize x.events = events at hf
    cases hf with
    | early hs => exact ⟨none, _, [], (List.append_nil _).symm, hs.mono hle, rfl⟩
    | aborted hs => exact ⟨_, _, _, rfl, hs.mono hle, rfl⟩
  aborted := hf.abandoned.aborted_eq
  uploads := (trail_abandoned hm hf.abandoned h).2

/-- The stage of an upload into the memory `m` and what the memory has come to are as the record of
its requests tells. -/
def Recorded (plan : Mishaps) (m : Memory) (object : NewObject) (p : Nat) (read : ByteArray)
    (ended : Bool) (stage : Stage) (x : Noted Memory) : Prop :=
  stage.Logged object p read ended x.events ∧
    Service.Trail Memory.serve plan m x.events x.state

theorem kept_recorded (plan : Mishaps) (m : Memory) (object : NewObject) {p : Nat} (hp : 0 < p) :
    Kept (Memory.serve.noted plan) object p (Recorded plan m object p) :=
  (kept_logged object hp Memory.serve plan).and fun r _ h => h.noted r

theorem recorded_start (plan : Mishaps) (m : Memory) (object : NewObject) (p : Nat) :
    Recorded plan m object p ByteArray.empty false (.opening Held.start) ⟨m, []⟩ :=
  ⟨logged_start object p, .start⟩

/-- An upload that fails leaves the objects as they were, reports the fault that stopped it and is
aborted once if it had got a name; one that does not fail is never aborted. Unless the abort itself
comes to grief the unfinished uploads are those from before. -/
theorem store_atomic (plan : Mishaps) {m : Memory} (hm : m.Issued) (object : NewObject) {p : Nat}
    (hp : 0 < p) (chunks : List ByteArray) :
    let out := store (Memory.serve.noted plan) object p .complete chunks ⟨m, []⟩
    (∀ why, out.1 = .error why → RolledBack object p (Bytes.join chunks) m why out.2) ∧
      (out.1 = .ok () →
        out.2.events.filterMap Event.abortedId? = [] ∧ out.2.state.uploads = m.uploads) := by
  obtain ⟨last, rest, ended, outcome, t, hstore, hjoin, -, hlog, htrail⟩ :=
    (kept_recorded plan m object hp).store chunks (recorded_start plan m object p)
  have hle : last.size ≤ (Bytes.join chunks).size := by
    rw [← hjoin, ByteArray.size_append]
    omega
  simp only [hstore]
  constructor
  · rintro why rfl
    exact rolledBack_of_failed hm hle hlog htrail
  · rintro rfl
    obtain ⟨_, _, _, _, huploads⟩ := trail_stored hm hlog.2 htrail
    exact ⟨hlog.2.aborted, huploads⟩

/-- The second part is refused and so is the abort. -/
def refusals : Mishaps := fun
  | _, .uploadPart _ _ 2 _ => some (.refused (.service "InternalError" none))
  | _, .abortUpload _ _ => some (.refused (.service "SlowDown" none))
  | _, _ => none

theorem store_atomic_refusals :
    RolledBack ⟨⟨"bucket", "key"⟩, .none, none⟩ 1 ⟨#[1, 2, 3]⟩ Memory.empty
      (.service "InternalError" none)
      (store (Memory.serve.noted refusals) ⟨⟨"bucket", "key"⟩, .none, none⟩ 1 .complete
        [⟨#[1]⟩, ⟨#[2, 3]⟩] ⟨Memory.empty, []⟩).2 :=
  (store_atomic refusals .empty ⟨⟨"bucket", "key"⟩, .none, none⟩ Nat.one_pos
    [⟨#[1]⟩, ⟨#[2, 3]⟩]).1 _ (by decide +kernel)

end BlobStore.Upload
