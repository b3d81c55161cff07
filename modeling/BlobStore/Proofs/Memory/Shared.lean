import BlobStore.Proofs.Memory.Pending
import BlobStore.Proofs.Upload.Account

/-!
# A memory in common

Many uploads make their requests to one memory, each in its own time. What is on record of an upload
tells which of the unfinished ones in the memory is its own, and what is on record of all of them
tells which one has stored the object under a key last.
-/

namespace BlobStore

/-- The key under which an object has been stored. -/
def Event.storedKey? : Event → Option String
  | ⟨.put object _, .ok _⟩ => some object.address.key
  | ⟨.completeUpload address _ _, .ok _⟩ => some address.key
  | _ => none

/-- What an unfinished upload and its name become after one more event. -/
def Event.unfinished (found : Option (String × PendingUpload)) (e : Event) :
    Option (String × PendingUpload) :=
  match e with
  | ⟨.createUpload address headers, .ok (some id)⟩ => some (id, ⟨address.key, headers, []⟩)
  | ⟨.uploadPart _ _ number body, .ok _⟩ =>
    found.map fun x => (x.1, { x.2 with parts := (number, body.bytes) :: x.2.parts })
  | ⟨.completeUpload _ _ _, .ok _⟩ => none
  | ⟨.abortUpload _ _, .ok _⟩ => none
  | _ => found

/-- The upload that has been started in these events and neither completed nor aborted. -/
def unfinished? (events : List Event) : Option (String × PendingUpload) :=
  events.foldl Event.unfinished none

private theorem unfinished?_append (events : List Event) (e : Event) :
    unfinished? (events ++ [e]) = e.unfinished (unfinished? events) := by
  rw [unfinished?, List.foldl_append]
  rfl

private theorem Event.unnoticed_of_error {e : Event} {why : Fault} (h : e.answer = .error why) :
    e.createdId? = none ∧ e.storedKey? = none ∧ ∀ found, e.unfinished found = found := by
  obtain ⟨r, answer⟩ := e
  have ha : answer = (.error why : Answer r) := h
  subst ha
  cases r <;> exact ⟨rfl, rfl, fun _ => rfl⟩

private theorem Mishap.unnoticed {mishap : Mishap} {e : Event}
    (h : mishap.answer? e.request = some e.answer) :
    e.createdId? = none ∧ e.storedKey? = none ∧ ∀ found, e.unfinished found = found := by
  rcases Mishap.answer?_eq_some h with ⟨why, he⟩ | ⟨address, headers, rfl⟩
  · exact Event.unnoticed_of_error he
  · exact ⟨rfl, rfl, fun _ => rfl⟩

theorem created_of_unfinished? {events : List Event} {id : String} {u : PendingUpload}
    (h : unfinished? events = some (id, u)) : id ∈ events.filterMap Event.createdId? := by
  induction events using List.reverseRecOn generalizing u with
  | nil => cases h
  | append_singleton events e ih =>
    rw [unfinished?_append] at h
    rw [List.filterMap_append, List.mem_append]
    unfold Event.unfinished at h
    split at h
    · cases h
      exact Or.inr (List.mem_singleton.mpr rfl)
    · obtain ⟨x, hx, he⟩ := Option.map_eq_some_iff.mp h
      cases he
      exact Or.inl (ih hx)
    · cases h
    · cases h
    · exact Or.inl (ih h)

namespace Upload

private theorem unfinished?_opened (object : NewObject) (id : String) (parts : List SentPart) :
    unfinished? (opened object id parts) = some (id,
      { key := object.address.key, headers := object.headers,
        parts := (parts.map fun x => (x.number, x.body)).reverse }) := by
  induction parts using List.reverseRecOn with
  | nil => rfl
  | append_singleton parts x ih =>
    rw [opened_append, unfinished?_append, ih, List.map_append, List.reverse_append]
    rfl

theorem GivenUp.unfinished {object : NewObject} {ended : Bool} {id : String} {events : List Event}
    (h : GivenUp object ended (some id) events) : ∃ u, unfinished? events = some (id, u) := by
  cases h with
  | opened => exact ⟨_, unfinished?_opened ..⟩
  | part | complete =>
    rw [unfinished?_append, (Event.unnoticed_of_error rfl).2.2]
    exact ⟨_, unfinished?_opened ..⟩

@[simp] theorem stored_opened (object : NewObject) (id : String) (parts : List SentPart) :
    (opened object id parts).filterMap Event.storedKey? = [] := by
  rw [List.filterMap_eq_nil_iff, forall_mem_opened]
  exact ⟨rfl, fun _ _ => rfl⟩

theorem GivenUp.stored {object : NewObject} {ended : Bool} {id? : Option String}
    {events : List Event} (h : GivenUp object ended id? events) :
    events.filterMap Event.storedKey? = [] := by
  cases h with
  | unstarted | put | create | unnamed => rfl
  | opened => exact stored_opened ..
  | part | complete =>
    rw [List.filterMap_append, stored_opened]
    rfl

theorem Abandoned.stored {object : NewObject} {ended : Bool} {events : List Event}
    (h : Abandoned object ended events) : events.filterMap Event.storedKey? = [] := by
  cases h with
  | early hg => exact hg.stored
  | aborted hg =>
    rw [List.filterMap_append, hg.stored]
    rfl

theorem StoredAs.stored {object : NewObject} {read : ByteArray} {events : List Event}
    (h : StoredAs object read events) :
    events.filterMap Event.storedKey? = [object.address.key] := by
  cases h with
  | whole => rfl
  | inParts =>
    rw [List.filterMap_append, stored_opened]
    rfl

end Upload

/-- A memory with the requests of all who use it, in the order in which they came. -/
structure Common (ι : Type) where
  memory : Memory
  log : List (ι × Event)

/-- Which requests come to grief, given who makes them and all requests before. -/
abbrev Hazards (ι : Type) := ι → List (ι × Event) → Request → Option Mishap

namespace Common

variable {ι : Type}

/-- The memory has come to `t` with one more event. -/
def note (c : Common ι) (i : ι) (e : Event) (t : Memory) : Common ι := ⟨t, c.log ++ [(i, e)]⟩

/-- Who has stored the object under a key last. -/
def storer? (c : Common ι) (key : String) : Option ι :=
  (c.log.reverse.find? fun x => x.2.storedKey? = some key).map Prod.fst

/-- How the memory answers one of those who use it. -/
def serveAs (plan : Hazards ι) (i : ι) : Service (Common ι) := fun r c =>
  match (plan i c.log r).bind (·.answer? r) with
  | some answer => (answer, c.note i ⟨r, answer⟩ c.memory)
  | none =>
    let (answer, t) := Memory.serve r c.memory
    (answer, c.note i ⟨r, answer⟩ t)

private theorem storer?_note_of_stored {e : Event} {key : String} (h : e.storedKey? = some key)
    (c : Common ι) (i : ι) (t : Memory) : (c.note i e t).storer? key = some i := by
  simp [storer?, note, h]

private theorem storer?_note_of_not_stored {e : Event} {key : String}
    (h : e.storedKey? ≠ some key) (c : Common ι) (i : ι) (t : Memory) :
    (c.note i e t).storer? key = c.storer? key := by
  simp [storer?, note, h]

variable [DecidableEq ι]

/-- What is on record of one of those who use the memory. -/
def own (c : Common ι) (i : ι) : List Event :=
  c.log.filterMap fun x => if x.1 = i then some x.2 else none

private theorem own_note (c : Common ι) (i : ι) (e : Event) (t : Memory) :
    (c.note i e t).own i = c.own i ++ [e] := by
  simp [own, note]

private theorem own_note_of_ne {i j : ι} (h : j ≠ i) (c : Common ι) (e : Event) (t : Memory) :
    (c.note i e t).own j = c.own j := by
  simp [own, note, h.symm]

theorem own_serveAs (plan : Hazards ι) (i : ι) (r : Request) (c : Common ι) :
    (serveAs plan i r c).2.own i = c.own i ++ [⟨r, (serveAs plan i r c).1⟩] := by
  unfold serveAs
  split
  · exact own_note ..
  · exact own_note ..

theorem own_serveAs_of_ne {i j : ι} (h : j ≠ i) (plan : Hazards ι) (r : Request) (c : Common ι) :
    (serveAs plan i r c).2.own j = c.own j := by
  unfold serveAs
  split
  · exact own_note_of_ne h ..
  · exact own_note_of_ne h ..

end Common

/-- What a writer is to store. -/
structure Job where
  object : NewObject
  partSize : Nat
  buffers : List ByteArray

namespace Job

def body (job : Job) : ByteArray := Bytes.join job.buffers

/-- What has been found under a key is what the job was to store. -/
def StoredUnder (job : Job) (key : String) (found : Option StoredObject) : Prop :=
  job.object.address.key = key ∧
    ∃ o, found = some o ∧ o.data = job.body ∧ o.headers = job.object.headers

end Job

/-- Under each key there is what `m` has there, or the whole body of whoever was the last to store
anything there. -/
def Common.LastStored {ι : Type} (m : Memory) (jobs : ι → Job) (c : Common ι) : Prop :=
  ∀ key, match c.storer? key with
    | none => c.memory.objects.get? key = m.objects.get? key
    | some i => (jobs i).StoredUnder key (c.memory.objects.get? key)

variable {ι : Type} [DecidableEq ι]

/-- What a memory, `m` to begin with, has come to with the requests on record, if each of those who
use it does its job. -/
structure Ledger (plan : Hazards ι) (m : Memory) (jobs : ι → Job) (c : Common ι) : Prop where
  started : m.started ≤ c.memory.started
  /-- The names of uploads have been given out since, and each of them once. -/
  named : ∀ i, ∀ id ∈ (c.own i).filterMap Event.createdId?,
    ∃ n, m.started < n ∧ n ≤ c.memory.started ∧ id = Memory.uploadName n
  single : ∀ i j id, id ∈ (c.own i).filterMap Event.createdId? →
    id ∈ (c.own j).filterMap Event.createdId? → i = j
  uploads : ∀ id u, c.memory.uploads.get? id = some u ↔
    m.uploads.get? id = some u ∨ ∃ i, unfinished? (c.own i) = some (id, u)
  objects : c.LastStored m jobs
  /-- Whatever is not kept from the memory is granted. -/
  granted : ∀ past i e, past ++ [(i, e)] <+: c.log →
    (plan i past e.request).bind (·.answer? e.request) = none → e.isGranted = true

namespace Ledger

open Upload

variable {plan : Hazards ι} {m t : Memory} {jobs : ι → Job} {c : Common ι} {i : ι} {e : Event}

theorem start : Ledger plan m jobs ⟨m, []⟩ where
  started := Nat.le_refl _
  named := fun i id h => by cases h
  single := fun i j id h => by cases h
  uploads := by simp [Common.own, unfinished?]
  objects := fun key => rfl
  granted := by simp

/-- No other upload has this name. -/
structure Sole (m : Memory) (c : Common ι) (i : ι) (id : String) : Prop where
  before : m.uploads.get? id = none
  others : ∀ j, j ≠ i → ∀ u, unfinished? (c.own j) ≠ some (id, u)
  own : ∀ x, unfinished? (c.own i) = some x → x.1 = id

private theorem sole_of_unfinished (hm : m.Issued) (h : Ledger plan m jobs c) {id : String}
    {u : PendingUpload} (hu : unfinished? (c.own i) = some (id, u)) : Sole m c i id where
  before := by
    rw [Option.eq_none_iff_forall_ne_some]
    intro pending hp
    obtain ⟨n, hlt, _, hn⟩ := h.named i id (created_of_unfinished? hu)
    obtain ⟨k, _, hle, hk⟩ := hm id pending hp
    have heq := Memory.uploadName_injective (hn.symm.trans hk)
    omega
  others := by
    intro j hne v hv
    exact hne (h.single j i id (created_of_unfinished? hv) (created_of_unfinished? hu))
  own := by
    intro x hx
    rw [hu] at hx
    cases hx
    rfl

private theorem sole_of_next (hm : m.Issued) (h : Ledger plan m jobs c)
    (hnone : unfinished? (c.own i) = none) :
    Sole m c i (Memory.uploadName (c.memory.started + 1)) where
  before := by
    rw [Option.eq_none_iff_forall_ne_some]
    intro pending hp
    obtain ⟨k, _, hle, hk⟩ := hm _ pending hp
    have heq := Memory.uploadName_injective hk
    have hstarted := h.started
    omega
  others := by
    intro j _ v hv
    obtain ⟨n, _, hle, hn⟩ := h.named j _ (created_of_unfinished? hv)
    have heq := Memory.uploadName_injective hn
    omega
  own := by
    intro x hx
    rw [hnone] at hx
    cases hx

private theorem uploads_note (h : Ledger plan m jobs c) {id : String} (hsole : Sole m c i id)
    (new : Option PendingUpload)
    (hnew : unfinished? (c.own i ++ [e]) = new.map (Prod.mk id))
    (ht : ∀ other, t.uploads.get? other =
      if other = id then new else c.memory.uploads.get? other) (other : String) (u : PendingUpload) :
    t.uploads.get? other = some u ↔
      m.uploads.get? other = some u ∨ ∃ j, unfinished? ((c.note i e t).own j) = some (other, u) := by
  rw [ht]
  by_cases hid : other = id
  · subst hid
    rw [if_pos rfl]
    constructor
    · rintro rfl
      refine Or.inr ⟨i, ?_⟩
      rw [Common.own_note, hnew]
      rfl
    · rintro (hb | ⟨j, hj⟩)
      · rw [hsole.before] at hb
        cases hb
      · by_cases hji : j = i
        · subst hji
          rw [Common.own_note, hnew] at hj
          obtain ⟨v, hv, hvu⟩ := Option.map_eq_some_iff.mp hj
          cases hvu
          exact hv
        · rw [Common.own_note_of_ne hji] at hj
          exact absurd hj (hsole.others j hji u)
  · rw [if_neg hid, h.uploads other u]
    -- The upload of `i` has the name `id` before and after.
    have hsame : ∀ j, unfinished? (c.own j) = some (other, u) ↔
        unfinished? ((c.note i e t).own j) = some (other, u) := by
      intro j
      by_cases hji : j = i
      · subst hji
        rw [Common.own_note, hnew]
        constructor
        · intro hj
          exact absurd (hsole.own _ hj) hid
        · intro hj
          obtain ⟨v, _, hvu⟩ := Option.map_eq_some_iff.mp hj
          cases hvu
          exact absurd rfl hid
      · rw [Common.own_note_of_ne hji]
    simp only [hsame]

private theorem uploads_note_same (h : Ledger plan m jobs c)
    (he : e.unfinished (unfinished? (c.own i)) = unfinished? (c.own i))
    (ht : t.uploads = c.memory.uploads) (id : String) (u : PendingUpload) :
    t.uploads.get? id = some u ↔
      m.uploads.get? id = some u ∨ ∃ j, unfinished? ((c.note i e t).own j) = some (id, u) := by
  have hsame : ∀ j, unfinished? ((c.note i e t).own j) = unfinished? (c.own j) := by
    intro j
    by_cases hji : j = i
    · subst hji
      rw [Common.own_note, unfinished?_append, he]
    · rw [Common.own_note_of_ne hji]
  simp only [ht, hsame, h.uploads id u]

private theorem objects_note_same (h : Ledger plan m jobs c) (he : e.storedKey? = none)
    (ht : t.objects = c.memory.objects) : (c.note i e t).LastStored m jobs := by
  intro key
  have hother : e.storedKey? ≠ some key := by
    rw [he]
    exact fun h => by cases h
  have hkey := h.objects key
  rw [← Common.storer?_note_of_not_stored hother c i t, ← ht] at hkey
  exact hkey

private theorem objects_note (h : Ledger plan m jobs c)
    (he : e.storedKey? = some (jobs i).object.address.key) {o : StoredObject}
    (hdata : o.data = (jobs i).body) (hheaders : o.headers = (jobs i).object.headers)
    (ht : t.objects = c.memory.objects.insert (jobs i).object.address.key o) :
    (c.note i e t).LastStored m jobs := by
  intro key
  have hobjects : (c.note i e t).memory.objects = t.objects := rfl
  by_cases hkey : key = (jobs i).object.address.key
  · subst hkey
    rw [Common.storer?_note_of_stored he, hobjects, ht]
    exact ⟨rfl, o, KeyMap.get?_insert_self _ _ _, hdata, hheaders⟩
  · have hother : e.storedKey? ≠ some key := by
      rw [he]
      exact fun heq => hkey (Option.some.inj heq).symm
    rw [Common.storer?_note_of_not_stored hother, hobjects, ht, KeyMap.get?_insert, if_neg hkey]
    exact h.objects key

/-- The ledger after one more event. Only names that have not been given out before are new. -/
theorem note (h : Ledger plan m jobs c) (hstarted : c.memory.started ≤ t.started)
    (hcreated : ∀ id, e.createdId? = some id →
      c.memory.started < t.started ∧ id = Memory.uploadName t.started)
    (huploads : ∀ id u, t.uploads.get? id = some u ↔
      m.uploads.get? id = some u ∨ ∃ j, unfinished? ((c.note i e t).own j) = some (id, u))
    (hobjects : (c.note i e t).LastStored m jobs)
    (hgranted : (plan i c.log e.request).bind (·.answer? e.request) = none → e.isGranted = true) :
    Ledger plan m jobs (c.note i e t) := by
  have hnames : ∀ j id, id ∈ ((c.note i e t).own j).filterMap Event.createdId? →
      id ∈ (c.own j).filterMap Event.createdId? ∨ (j = i ∧ e.createdId? = some id) := by
    intro j id hid
    by_cases hji : j = i
    · subst hji
      rw [Common.own_note, List.filterMap_append, List.mem_append] at hid
      rcases hid with hid | hid
      · exact Or.inl hid
      · obtain ⟨x, hx, hxid⟩ := List.mem_filterMap.mp hid
        rw [List.mem_singleton.mp hx] at hxid
        exact Or.inr ⟨rfl, hxid⟩
    · rw [Common.own_note_of_ne hji] at hid
      exact Or.inl hid
  -- A name given out before is not the newest one.
  have hold : ∀ j id, id ∈ (c.own j).filterMap Event.createdId? → e.createdId? ≠ some id := by
    intro j id hid hnew
    obtain ⟨n, _, hle, hn⟩ := h.named j id hid
    obtain ⟨hlt, hid'⟩ := hcreated id hnew
    have heq := Memory.uploadName_injective (hn.symm.trans hid')
    omega
  refine ⟨Nat.le_trans h.started hstarted, ?_, ?_, huploads, hobjects, ?_⟩
  · intro j id hid
    rcases hnames j id hid with hid | ⟨_, hnew⟩
    · obtain ⟨n, hlt, hle, hn⟩ := h.named j id hid
      exact ⟨n, hlt, Nat.le_trans hle hstarted, hn⟩
    · obtain ⟨hlt, hid'⟩ := hcreated id hnew
      exact ⟨t.started, Nat.lt_of_le_of_lt h.started hlt, Nat.le_refl _, hid'⟩
  · intro j k id hj hk
    rcases hnames j id hj with hj | ⟨rfl, hnew⟩
    · rcases hnames k id hk with hk | ⟨_, hnew⟩
      · exact h.single j k id hj hk
      · exact absurd hnew (hold j id hj)
    · rcases hnames k id hk with hk | ⟨hki, _⟩
      · exact absurd hnew (hold k id hk)
      · exact hki.symm
  · intro past j x hprefix hplan
    rcases List.prefix_concat_iff.mp hprefix with heq | hprefix
    · obtain ⟨rfl, hx⟩ := List.append_inj' heq rfl
      cases hx
      exact hgranted hplan
    · exact h.granted past j x hprefix hplan

theorem missed (h : Ledger plan m jobs c) {r : Request} {answer : Answer r}
    (hmissed : (plan i c.log r).bind (·.answer? r) = some answer) :
    Ledger plan m jobs (c.note i ⟨r, answer⟩ c.memory) := by
  obtain ⟨mishap, _, hmishap⟩ := Option.bind_eq_some_iff.mp hmissed
  obtain ⟨hcreated, hstored, hunfinished⟩ := Mishap.unnoticed (e := ⟨r, answer⟩) hmishap
  refine h.note (Nat.le_refl _) ?_ (h.uploads_note_same (hunfinished _) rfl)
    (h.objects_note_same hstored rfl) ?_
  · intro id hid
    rw [hcreated] at hid
    cases hid
  · intro hnone
    rw [hmissed] at hnone
    cases hnone

theorem put (h : Ledger plan m jobs c) {body : ByteArray} (hbody : body = (jobs i).body) :
    Ledger plan m jobs
      (c.note i ⟨.put (jobs i).object (.ofBytes body), .ok ()⟩
        (c.memory.put (jobs i).object body)) := by
  refine h.note (Nat.le_refl _) (fun id hid => by cases hid) ?_ ?_ fun _ => rfl
  · exact h.uploads_note_same rfl rfl
  · exact h.objects_note rfl hbody rfl rfl

theorem create (hm : m.Issued) (h : Ledger plan m jobs c) (hnone : unfinished? (c.own i) = none)
    (address : Address) (headers : Headers) :
    Ledger plan m jobs
      (c.note i
        ⟨.createUpload address headers, .ok (some (c.memory.createUpload address.key headers).1)⟩
        (c.memory.createUpload address.key headers).2) := by
  have hsole := h.sole_of_next hm hnone
  refine h.note (Nat.le_succ _) ?_ ?_ (h.objects_note_same rfl rfl) fun _ => rfl
  · intro id hid
    cases hid
    exact ⟨Nat.lt_succ_self _, rfl⟩
  · refine h.uploads_note hsole (some ⟨address.key, headers, []⟩) ?_ ?_
    · rw [unfinished?_append]
      rfl
    · intro other
      exact KeyMap.get?_insert ..

theorem part (hm : m.Issued) (h : Ledger plan m jobs c) {id : String} {u : PendingUpload}
    (hu : unfinished? (c.own i) = some (id, u)) (address : Address) (number : Nat)
    (body : ByteArray) :
    ∃ etag t, c.memory.uploadPart id number body = (.ok etag, t) ∧
      Ledger plan m jobs (c.note i ⟨.uploadPart address id number (.ofBytes body), .ok etag⟩ t) := by
  have hfound : c.memory.uploads.get? id = some u := (h.uploads id u).mpr (Or.inr ⟨i, hu⟩)
  refine ⟨_, _, by rw [Memory.uploadPart, hfound], ?_⟩
  refine h.note (Nat.le_refl _) (fun id hid => by cases hid) ?_ (h.objects_note_same rfl rfl)
    fun _ => rfl
  refine h.uploads_note (h.sole_of_unfinished hm hu)
    (some { u with parts := (number, body) :: u.parts }) ?_ ?_
  · rw [unfinished?_append, hu]
    rfl
  · intro other
    exact KeyMap.get?_insert ..

theorem complete (hm : m.Issued) (h : Ledger plan m jobs c) {id : String} {u : PendingUpload}
    (hu : unfinished? (c.own i) = some (id, u)) (hkey : u.key = (jobs i).object.address.key)
    (hheaders : u.headers = (jobs i).object.headers) {sent : Array PartReceipt}
    (hjoin : Memory.joinParts u.parts sent.toList = .ok (jobs i).body) :
    ∃ t, c.memory.completeUpload id sent.toList = (.ok (), t) ∧
      Ledger plan m jobs
        (c.note i ⟨.completeUpload (jobs i).object.address id sent, .ok ()⟩ t) := by
  have hfound : c.memory.uploads.get? id = some u := (h.uploads id u).mpr (Or.inr ⟨i, hu⟩)
  let o : StoredObject :=
    ⟨(jobs i).body, Memory.partedTag (jobs i).body sent.toList.length, u.headers, none⟩
  let t : Memory :=
    { c.memory with
      objects := c.memory.objects.insert u.key o
      uploads := c.memory.uploads.erase id }
  have hserve : c.memory.completeUpload id sent.toList = (.ok (), t) := by
    rw [Memory.completeUpload, hfound]
    simp only [hjoin]
    rfl
  refine ⟨t, hserve, ?_⟩
  refine h.note (Nat.le_refl _) (fun id hid => by cases hid) ?_ ?_ fun _ => rfl
  · refine h.uploads_note (h.sole_of_unfinished hm hu) none ?_ ?_
    · rw [unfinished?_append]
      rfl
    · intro other
      exact KeyMap.get?_erase ..
  · refine h.objects_note (o := o) rfl rfl hheaders ?_
    rw [← hkey]

theorem abort (hm : m.Issued) (h : Ledger plan m jobs c) {id : String} {u : PendingUpload}
    (hu : unfinished? (c.own i) = some (id, u)) (address : Address) :
    Ledger plan m jobs
      (c.note i ⟨.abortUpload address id, .ok ()⟩
        { c.memory with uploads := c.memory.uploads.erase id }) := by
  refine h.note (Nat.le_refl _) (fun id hid => by cases hid) ?_ (h.objects_note_same rfl rfl)
    fun _ => rfl
  refine h.uploads_note (h.sole_of_unfinished hm hu) none ?_ ?_
  · rw [unfinished?_append]
    rfl
  · intro other
    exact KeyMap.get?_erase ..

/-- The ledger is kept by every request of an upload that stores nothing but the whole body of its
job. -/
theorem serve (hm : m.Issued) (h : Ledger plan m jobs c) {p : Nat} {read : ByteArray} {ended : Bool}
    {stage : Stage} {r : Request} {next : Answer r → Stage}
    (ha : Asks (jobs i).object p stage r next)
    (ht : stage.Tracked (jobs i).object read ended (c.own i))
    (hread : ended = true → read = (jobs i).body) :
    Ledger plan m jobs (Common.serveAs plan i r c).2 := by
  obtain ⟨hend, hacc⟩ := ht
  unfold Common.serveAs
  split
  · rename_i hmissed
    exact h.missed hmissed
  · cases ha with
    | storing body =>
      obtain ⟨_, rfl⟩ := hacc
      exact h.put (hread hend)
    | creating part rest =>
      obtain ⟨hnone, _⟩ := hacc
      exact h.create hm (by rw [hnone]; rfl) _ _
    | sending id sent part rest =>
      obtain ⟨parts, hopened, _⟩ := hacc
      have hu := unfinished?_opened (jobs i).object id parts
      rw [← hopened] at hu
      obtain ⟨etag, t, hserve, hnext⟩ := h.part hm hu (jobs i).object.address (sent.size + 1) part
      simp only [Memory.serve, Body.bytes_ofBytes, hserve]
      exact hnext
    | completing id sent =>
      obtain ⟨parts, hopened, htaken, hjoined⟩ := hacc
      have hu := unfinished?_opened (jobs i).object id parts
      rw [← hopened] at hu
      have hjoin := Memory.joinParts_numbered htaken.numbered
      rw [← htaken.receipts, hjoined, hread hend] at hjoin
      obtain ⟨t, hserve, hnext⟩ := h.complete hm hu rfl rfl hjoin
      simp only [Memory.serve, hserve]
      exact hnext
    | aborting id why =>
      obtain ⟨u, hu⟩ := GivenUp.unfinished hacc
      exact h.abort hm hu _

theorem untouched {after : Common ι} (h : Ledger plan m jobs c) (h' : Ledger plan m jobs after)
    (hown : ∀ j, j ≠ i → after.own j = c.own j) {id : String} {u : PendingUpload}
    (hid : c.memory.uploads.get? id = some u) (hnot : ∀ v, unfinished? (c.own i) ≠ some (id, v)) :
    after.memory.uploads.get? id = some u := by
  rw [h'.uploads id u]
  rcases (h.uploads id u).mp hid with hb | ⟨j, hj⟩
  · exact Or.inl hb
  · by_cases hji : j = i
    · subst hji
      exact absurd hj (hnot u)
    · refine Or.inr ⟨j, ?_⟩
      rw [hown j hji]
      exact hj

end Ledger

end BlobStore
