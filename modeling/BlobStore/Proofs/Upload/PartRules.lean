import BlobStore.Proofs.Upload.Success

/-!
# The rules for uploads in parts

A service takes at most ten thousand parts, numbered from one on and all but the last of at least
five mebibytes, and a completion that lists every part with the tag it was given. An upload that is
refused nothing keeps to these rules, and sends a body of at most one part in a single request.
-/

namespace BlobStore

/-- What a request sends as bytes of an object. -/
def Request.body? : Request → Option Body
  | .put _ body => some body
  | .uploadPart _ _ _ body => some body
  | _ => none

/-- The request has been granted, and an upload in parts has been given a name. -/
def Event.isServed : Event → Bool
  | ⟨.createUpload _ _, .ok none⟩ => false
  | e => e.isGranted

private theorem Event.not_isServed {r : Request} {why : Fault} :
    (Event.mk r (.error why)).isServed = false := by
  cases r <;> rfl

namespace Upload

private theorem minPartSize_le_partSizeFor (requested : Nat) :
    minPartSize ≤ partSizeFor requested := by
  unfold partSizeFor
  split
  · exact Nat.le_refl _
  · have hmax : minPartSize ≤ maxPartSize := by decide
    omega

theorem partSizeFor_pos (requested : Nat) : 0 < partSizeFor requested :=
  Nat.lt_of_lt_of_le (by decide) (minPartSize_le_partSizeFor requested)

variable {object : NewObject} {p : Nat} {read : ByteArray}

/-- How a body is cut into parts of the size `p`. -/
structure CutInto (p : Nat) (body : ByteArray) (parts : List SentPart) : Prop where
  /-- As many as are needed. -/
  count : parts.length = (body.size + p - 1) / p
  numbers : parts.map (·.number) = List.range' 1 parts.length
  joined : SentPart.joined parts = body
  full : ∀ x ∈ parts.dropLast, x.body.size = p
  last : ∃ x, parts.getLast? = some x ∧ 0 < x.body.size ∧ x.body.size ≤ p

theorem Parted.length_eq {parts : List SentPart} (h : Parted p parts) :
    parts.length = ((SentPart.joined parts).size + p - 1) / p := by
  obtain ⟨front, last, rfl, hfull, hpos, hle⟩ := h
  have hsize := size_read hfull (SentPart.joined_append_singleton front last).symm
  have hp : 0 < p := Nat.lt_of_lt_of_le hpos hle
  have hshift : (SentPart.joined (front ++ [last])).size + p - 1 =
      (last.body.size - 1) + (front.length + 1) * p := by
    rw [hsize, Nat.succ_mul]
    omega
  have hsmall : (last.body.size - 1) / p = 0 := Nat.div_eq_of_lt (by omega)
  rw [hshift, Nat.add_mul_div_right _ _ hp, hsmall, Nat.zero_add, List.length_append,
    List.length_singleton]

private theorem Parted.cutInto {parts : List SentPart} {body : ByteArray} (h : Parted p parts)
    (hnumbered : SentPart.Numbered parts) (hjoined : SentPart.joined parts = body) :
    CutInto p body parts where
  count := hjoined ▸ h.length_eq
  numbers := hnumbered
  joined := hjoined
  full := by
    obtain ⟨front, last, rfl, hfull, _⟩ := h
    rw [List.dropLast_concat]
    exact hfull
  last := by
    obtain ⟨front, last, rfl, _, hpos, hle⟩ := h
    exact ⟨last, List.getLast?_concat, hpos, hle⟩

theorem Parted.size_le {parts : List SentPart} (h : Parted p parts) :
    (SentPart.joined parts).size ≤ parts.length * p := by
  obtain ⟨front, last, rfl, hfull, _, hle⟩ := h
  have hsize := size_read hfull (SentPart.joined_append_singleton front last).symm
  rw [hsize, List.length_append, List.length_singleton, Nat.succ_mul]
  omega

private theorem Stopped.of_served {id? : Option String} {events : List Event} {why : Fault}
    (h : Stopped object p read id? events why) (hserved : ∀ e ∈ events, e.isServed = true) :
    ∃ id parts, id? = some id ∧ events = opened object id parts ∧ SentPart.Numbered parts ∧
      parts.length = maxParts ∧ maxParts * p < read.size ∧
      why = .invalidRequest (.tooManyParts p) := by
  cases h with
  | tooMany hnumbered hlen hlt => exact ⟨_, _, rfl, rfl, hnumbered, hlen, hlt, rfl⟩
  | unnamed => cases hserved _ List.mem_cons_self
  | put | create =>
    have hlast := hserved _ List.mem_cons_self
    rw [Event.not_isServed] at hlast
    cases hlast
  | part | complete =>
    have hlast := hserved _ (List.mem_append_right _ List.mem_cons_self)
    rw [Event.not_isServed] at hlast
    cases hlast

private theorem Failed.of_served {events : List Event} {why : Fault}
    (h : Failed object p read events why) (hserved : ∀ e ∈ events, e.isServed = true) :
    maxParts * p < read.size ∧ why = .invalidRequest (.tooManyParts p) ∧
      ∃ id parts, SentPart.Numbered parts ∧ parts.length = maxParts ∧
        events = opened object id parts ++ [⟨.abortUpload object.address id, .ok ()⟩] := by
  cases h with
  | early hs =>
    obtain ⟨id, parts, hid, _⟩ := hs.of_served hserved
    cases hid
  | @aborted id before _ answer hs =>
    have hbefore : ∀ e ∈ before, e.isServed = true :=
      fun e he => hserved e (List.mem_append_left _ he)
    obtain ⟨_, parts, hid, rfl, hnumbered, hlen, hlt, hwhy⟩ := hs.of_served hbefore
    cases hid
    refine ⟨hlt, hwhy, id, parts, hnumbered, hlen, ?_⟩
    cases answer with
    | ok reply => rfl
    | error fault =>
      have hlast := hserved _ (List.mem_append_right _ List.mem_cons_self)
      rw [Event.not_isServed] at hlast
      cases hlast

variable {σ : Type} {serve : Service σ}

/-- Where nothing is refused, an upload stores its body or runs out of parts. -/
theorem store_of_served (hp : 0 < p) (chunks : List ByteArray) (s : σ)
    (hserved : ∀ e ∈ (store (serve.noted .none) object p .complete chunks ⟨s, []⟩).2.events,
      e.isServed = true) :
    let out := store (serve.noted .none) object p .complete chunks ⟨s, []⟩
    (out.1 = .ok () ∧ Stored object p (Bytes.join chunks) out.2.events) ∨
      (maxParts * p < (Bytes.join chunks).size ∧
        out.1 = .error (.invalidRequest (.tooManyParts p)) ∧
        ∃ id parts, SentPart.Numbered parts ∧ parts.length = maxParts ∧
          out.2.events = opened object id parts ++ [⟨.abortUpload object.address id, .ok ()⟩]) := by
  obtain ⟨last, rest, ended, outcome, t, hstore, hjoin, hend, hlog⟩ :=
    (kept_logged object hp serve .none).store (s := ⟨s, []⟩) chunks (logged_start object p)
  rw [hstore] at hserved
  simp only [hstore]
  cases outcome with
  | ok =>
    have hrest := hend hlog.1
    rw [hrest, Bytes.join_nil, ByteArray.append_empty] at hjoin
    exact Or.inl ⟨rfl, hjoin ▸ hlog.2⟩
  | error why =>
    obtain ⟨hlt, rfl, hevents⟩ := Failed.of_served hlog hserved
    have hle : last.size ≤ (Bytes.join chunks).size := by
      rw [← hjoin, ByteArray.size_append]
      omega
    exact Or.inr ⟨Nat.lt_of_lt_of_le hlt hle, rfl, hevents⟩

theorem Stored.size_le {body : ByteArray} {events : List Event} (h : Stored object p body events) :
    body.size ≤ maxParts * p := by
  cases h with
  | whole hle =>
    exact Nat.le_trans hle (Nat.le_mul_of_pos_left p (by decide))
  | inParts _ _ hparted hmax _ hjoined =>
    have hsize := hparted.size_le
    rw [hjoined] at hsize
    exact Nat.le_trans hsize (Nat.mul_le_mul_right p hmax)

private theorem Stored.eq_whole {body : ByteArray} {events : List Event}
    (h : Stored object p body events) (hle : body.size ≤ p) :
    events = [⟨.put object (.ofBytes body), .ok ()⟩] := by
  cases h with
  | whole => rfl
  | inParts _ _ _ _ hlt => omega

private theorem Stored.eq_inParts {body : ByteArray} {events : List Event}
    (h : Stored object p body events) (hlt : p < body.size) :
    ∃ id parts, CutInto p body parts ∧ parts.length ≤ maxParts ∧
      events = opened object id parts ++
        [⟨.completeUpload object.address id (parts.map (·.receipt)).toArray, .ok ()⟩] := by
  cases h with
  | whole hle => omega
  | @inParts id parts sent hsent hnumbered hparted hmax _ hjoined =>
    refine ⟨id, parts, hparted.cutInto hnumbered hjoined, hmax, ?_⟩
    rw [← hsent, Array.toArray_toList]

theorem Stored.served {body : ByteArray} {events : List Event} (h : Stored object p body events) :
    ∀ e ∈ events, e.isServed = true := by
  cases h with
  | whole => exact List.forall_mem_singleton.mpr rfl
  | inParts =>
    rw [List.forall_mem_append, forall_mem_opened]
    exact ⟨⟨rfl, fun _ _ => rfl⟩, List.forall_mem_singleton.mpr rfl⟩

/-- With every body goes its length. -/
def Sized (events : List Event) : Prop :=
  ∀ e ∈ events, ∀ body, e.request.body? = some body → body.contentLength = some body.bytes.size

private theorem sized_opened_append (id : String) (parts : List SentPart) {last : Event}
    (hlast : last.request.body? = none) : Sized (opened object id parts ++ [last]) := by
  unfold Sized
  rw [List.forall_mem_append, forall_mem_opened, List.forall_mem_singleton, hlast]
  refine ⟨⟨nofun, fun x _ body hbody => ?_⟩, nofun⟩
  obtain rfl := Option.some.inj hbody
  rfl

private theorem Stored.sized {body : ByteArray} {events : List Event}
    (h : Stored object p body events) :
    Sized events := by
  cases h with
  | whole =>
    refine List.forall_mem_singleton.mpr fun sent hsent => ?_
    obtain rfl := Option.some.inj hsent
    rfl
  | inParts => exact sized_opened_append _ _ rfl

private theorem opened_within {id : String} {parts : List SentPart}
    (hnumbered : SentPart.Numbered parts) (hlen : parts.length ≤ maxParts)
    (answer : Answer (.abortUpload object.address id)) :
    ∀ e ∈ opened object id parts ++ [⟨.abortUpload object.address id, answer⟩],
      (∀ address id number bytes, e.request = .uploadPart address id number bytes →
        number ≤ maxParts) ∧
      ∀ address id listed, e.request ≠ .completeUpload address id listed := by
  rw [List.forall_mem_append, forall_mem_opened, List.forall_mem_singleton]
  refine ⟨⟨?_, ?_⟩, ?_⟩
  · exact ⟨fun _ _ _ _ h => (by cases h), fun _ _ _ h => (by cases h)⟩
  · intro x hx
    refine ⟨fun _ _ number _ h => ?_, fun _ _ _ h => (by cases h)⟩
    have hnumber : x.number ∈ List.range' 1 parts.length := by
      rw [← hnumbered]
      exact List.mem_map_of_mem hx
    cases h
    have hrange := List.mem_range'_1.mp hnumber
    omega
  · exact ⟨fun _ _ _ _ h => (by cases h), fun _ _ _ h => (by cases h)⟩

/-- The memory refuses nothing of a body that fits into the allowed number of parts. -/
theorem served_of_memory (m : Memory) (object : NewObject) (hp : 0 < p) {chunks : List ByteArray}
    (hsize : (Bytes.join chunks).size ≤ maxParts * p) :
    ∀ e ∈ (store (Memory.serve.noted .none) object p .complete chunks ⟨m, []⟩).2.events,
      e.isServed = true := by
  obtain ⟨last, rest, ended, outcome, t, hstore, hjoin, -, hlog, htrail⟩ :=
    (kept_recorded .none m object hp).store chunks (recorded_start .none m object p)
  rw [hstore]
  cases outcome with
  | ok => exact hlog.2.served
  | error why =>
    have hle : last.size ≤ maxParts * p := by
      rw [← hjoin, ByteArray.size_append] at hsize
      omega
    exact (not_failed hlog hle htrail).elim

/-- An upload that is refused nothing makes one request for a body of at most one part. A longer
body goes out in as many parts as it needs, each but the last full, and the completion lists them
all; if that would take more than ten thousand, none is sent beyond these and nothing is completed.
With every body its length is told. -/
theorem store_keeps_part_rules (serve : Service σ) (object : NewObject) (requested : Nat)
    (chunks : List ByteArray) (s : σ)
    (hserved : ∀ e ∈ (store (serve.noted .none) object (partSizeFor requested) .complete chunks
      ⟨s, []⟩).2.events, e.isServed = true) :
    let p := partSizeFor requested
    let body := Bytes.join chunks
    let out := store (serve.noted .none) object p .complete chunks ⟨s, []⟩
    minPartSize ≤ p ∧
    (body.size ≤ p → out.1 = .ok () ∧ out.2.events = [⟨.put object (.ofBytes body), .ok ()⟩]) ∧
    (p < body.size → body.size ≤ maxParts * p → out.1 = .ok () ∧
      ∃ id parts, CutInto p body parts ∧ out.2.events = opened object id parts ++
        [⟨.completeUpload object.address id (parts.map (·.receipt)).toArray, .ok ()⟩]) ∧
    (maxParts * p < body.size → out.1 = .error (.invalidRequest (.tooManyParts p)) ∧
      (∃ id parts, SentPart.Numbered parts ∧ parts.length = maxParts ∧
        out.2.events = opened object id parts ++ [⟨.abortUpload object.address id, .ok ()⟩]) ∧
      ∀ e ∈ out.2.events,
        (∀ address id number bytes, e.request = .uploadPart address id number bytes →
          number ≤ maxParts) ∧
        ∀ address id listed, e.request ≠ .completeUpload address id listed) ∧
    ∀ e ∈ out.2.events, ∀ sent, e.request.body? = some sent →
      sent.contentLength = some sent.bytes.size := by
  intro p body out
  have hp : 0 < p := partSizeFor_pos requested
  have hone : p ≤ maxParts * p := Nat.le_mul_of_pos_left p (by decide)
  have hout := store_of_served hp chunks s hserved
  refine ⟨minPartSize_le_partSizeFor requested, ?_, ?_, ?_, ?_⟩
  · intro hle
    rcases hout with ⟨hok, hstored⟩ | ⟨hmany, _⟩
    · exact ⟨hok, hstored.eq_whole hle⟩
    · exact absurd hmany (Nat.not_lt.mpr (Nat.le_trans hle hone))
  · intro hlt hle
    rcases hout with ⟨hok, hstored⟩ | ⟨hmany, _⟩
    · obtain ⟨id, parts, hcut, _, hevents⟩ := hstored.eq_inParts hlt
      exact ⟨hok, id, parts, hcut, hevents⟩
    · exact absurd hmany (Nat.not_lt.mpr hle)
  · intro hmany
    rcases hout with ⟨_, hstored⟩ | ⟨_, herror, id, parts, hnumbered, hlen, hevents⟩
    · exact absurd hmany (Nat.not_lt.mpr hstored.size_le)
    · refine ⟨herror, ⟨id, parts, hnumbered, hlen, hevents⟩, ?_⟩
      rw [hevents]
      exact opened_within hnumbered (Nat.le_of_eq hlen) _
  · rcases hout with ⟨_, hstored⟩ | ⟨_, _, id, parts, _, _, hevents⟩
    · exact hstored.sized
    · rw [hevents]
      exact sized_opened_append id parts rfl

/-- A body of one part and a byte. -/
def twoParts : List ByteArray := [⟨Array.replicate minPartSize 0⟩, ⟨#[1]⟩]

private theorem size_twoParts : (Bytes.join twoParts).size = minPartSize + 1 := by
  simp [twoParts, ByteArray.size]

theorem store_keeps_part_rules_two_parts :
    let out := store (Memory.serve.noted .none) ⟨⟨"bucket", "key"⟩, .none, none⟩ (partSizeFor 0)
      .complete twoParts ⟨Memory.empty, []⟩
    (∀ e ∈ out.2.events, e.isServed = true) ∧ out.1 = .ok () ∧
      ∃ id parts, CutInto (partSizeFor 0) (Bytes.join twoParts) parts ∧ parts.length = 2 ∧
        out.2.events = opened ⟨⟨"bucket", "key"⟩, .none, none⟩ id parts ++
          [⟨.completeUpload ⟨"bucket", "key"⟩ id (parts.map (·.receipt)).toArray, .ok ()⟩] := by
  have hlt : partSizeFor 0 < (Bytes.join twoParts).size := by
    rw [size_twoParts]
    decide
  have hle : (Bytes.join twoParts).size ≤ maxParts * partSizeFor 0 := by
    rw [size_twoParts]
    decide
  have hserved := served_of_memory Memory.empty ⟨⟨"bucket", "key"⟩, .none, none⟩ (partSizeFor_pos 0)
    hle
  obtain ⟨hok, id, parts, hcut, hevents⟩ := (store_keeps_part_rules Memory.serve
    ⟨⟨"bucket", "key"⟩, .none, none⟩ 0 twoParts Memory.empty hserved).2.2.1 hlt hle
  have hlen : parts.length = 2 := by
    rw [hcut.count, size_twoParts]
    decide
  exact ⟨hserved, hok, id, parts, hcut, hlen, hevents⟩

end Upload

end BlobStore
