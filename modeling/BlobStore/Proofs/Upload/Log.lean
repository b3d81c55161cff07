import BlobStore.Proofs.Upload.Moves

/-!
# The log of an upload

At each stage it is known which requests have been made, which answers they got, and where the bytes
read so far have gone. This holds for every service: an upload goes on only after answers that grant
its requests, and the first one that does not decides its fault.
-/

namespace BlobStore.Upload

/-- Why an upload that has read these bytes has stopped after these events, and the name of the
upload that is to be aborted if there is one. -/
inductive Stopped (object : NewObject) (p : Nat) (read : ByteArray) :
    Option String → List Event → Fault → Prop
  | put {body : ByteArray} {why : Fault} :
      Stopped object p read none [⟨.put object (.ofBytes body), .error why⟩] why
  | create {why : Fault} :
      Stopped object p read none [⟨.createUpload object.address object.headers, .error why⟩] why
  | unnamed :
      Stopped object p read none [⟨.createUpload object.address object.headers, .ok none⟩]
        (.invalidRequest .noUploadId)
  | part {id : String} {parts : List SentPart} {number : Nat} {body : ByteArray} {why : Fault} :
      SentPart.Numbered parts → number = parts.length + 1 →
      Stopped object p read (some id)
        (opened object id parts ++ [⟨.uploadPart object.address id number (.ofBytes body), .error why⟩]) why
  | tooMany {id : String} {parts : List SentPart} :
      SentPart.Numbered parts → parts.length = maxParts → maxParts * p < read.size →
      Stopped object p read (some id) (opened object id parts) (.invalidRequest (.tooManyParts p))
  | complete {id : String} {parts : List SentPart} {sent : Array PartReceipt} {why : Fault} :
      sent.toList = parts.map (·.receipt) → SentPart.Numbered parts →
      Stopped object p read (some id)
        (opened object id parts ++ [⟨.completeUpload object.address id sent, .error why⟩]) why

theorem Stopped.mono {object : NewObject} {p : Nat} {read body : ByteArray} {id? : Option String}
    {events : List Event} {why : Fault} (h : Stopped object p read id? events why)
    (hle : read.size ≤ body.size) : Stopped object p body id? events why := by
  cases h with
  | put => exact .put
  | create => exact .create
  | unnamed => exact .unnamed
  | part hnumbered hnumber => exact .part hnumbered hnumber
  | tooMany hnumbered hlen hlt => exact .tooMany hnumbered hlen (Nat.lt_of_lt_of_le hlt hle)
  | complete hsent hnumbered => exact .complete hsent hnumbered

/-- An upload that has started in parts is aborted after it has stopped. -/
inductive Failed (object : NewObject) (p : Nat) (read : ByteArray) : List Event → Fault → Prop
  | early {events : List Event} {why : Fault} :
      Stopped object p read none events why → Failed object p read events why
  | aborted {id : String} {events : List Event} {why : Fault}
      {answer : Answer (.abortUpload object.address id)} :
      Stopped object p read (some id) events why →
      Failed object p read (events ++ [⟨.abortUpload object.address id, answer⟩]) why

/-- All parts are of full size but for the last, which may be shorter. -/
def Parted (p : Nat) (parts : List SentPart) : Prop :=
  ∃ front last, parts = front ++ [last] ∧ (∀ x ∈ front, x.body.size = p) ∧
    0 < last.body.size ∧ last.body.size ≤ p

/-- How the bytes have been stored. -/
inductive Stored (object : NewObject) (p : Nat) (read : ByteArray) : List Event → Prop
  | whole : read.size ≤ p → Stored object p read [⟨.put object (.ofBytes read), .ok ()⟩]
  | inParts {id : String} {parts : List SentPart} {sent : Array PartReceipt} :
      sent.toList = parts.map (·.receipt) → SentPart.Numbered parts → Parted p parts →
      parts.length ≤ maxParts → p < read.size → SentPart.joined parts = read →
      Stored object p read
        (opened object id parts ++ [⟨.completeUpload object.address id sent, .ok ()⟩])

/-- The parts on record are those that receipts are kept of. -/
structure Taken (sent : Array PartReceipt) (parts : List SentPart) : Prop where
  receipts : sent.toList = parts.map (·.receipt)
  numbered : SentPart.Numbered parts

/-- A part that has been cut off, and what has been read after it. -/
structure Cut (p : Nat) (ended : Bool) (part : ByteArray) (rest : Held) : Prop where
  ended_eq : rest.ended = ended
  pos : 0 < part.size
  size_le : part.size ≤ p
  full : 0 < rest.bytes.size → part.size = p
  rest_pos : ended = false → 0 < rest.bytes.size

namespace Stage

/-- What is on record when an upload that has read these bytes has got to a stage. -/
def Logged (object : NewObject) (p : Nat) (read : ByteArray) (ended : Bool) :
    Stage → List Event → Prop
  | .opening held, events =>
    events = [] ∧ held = ⟨read, false⟩ ∧ ended = false ∧ read.size ≤ p
  | .storing body, events => events = [] ∧ body = read ∧ ended = true ∧ read.size ≤ p
  | .creating part rest, events =>
    events = [] ∧ part ++ rest.bytes = read ∧ Cut p ended part rest ∧ 0 < rest.bytes.size
  | .sending id sent part rest, events =>
    p < read.size ∧ Cut p ended part rest ∧ sent.size < maxParts ∧
      ∃ parts, events = opened object id parts ∧ Taken sent parts ∧
        (∀ x ∈ parts, x.body.size = p) ∧ SentPart.joined parts ++ (part ++ rest.bytes) = read
  | .gathering id sent held, events =>
    p < read.size ∧ held.ended = false ∧ ended = false ∧ 0 < held.bytes.size ∧
      held.bytes.size ≤ p ∧ sent.size ≤ maxParts ∧
      ∃ parts, events = opened object id parts ∧ Taken sent parts ∧
        (∀ x ∈ parts, x.body.size = p) ∧ SentPart.joined parts ++ held.bytes = read
  | .completing id sent, events =>
    p < read.size ∧ ended = true ∧ sent.size ≤ maxParts ∧
      ∃ parts, events = opened object id parts ∧ Taken sent parts ∧ Parted p parts ∧
        SentPart.joined parts = read
  | .aborting id why, events => Stopped object p read (some id) events why
  | .finished (.error why), events => Failed object p read events why
  | .finished (.ok ()), events => ended = true ∧ Stored object p read events

end Stage

theorem Taken.size_eq {sent : Array PartReceipt} {parts : List SentPart} (h : Taken sent parts) :
    sent.size = parts.length := by
  rw [← Array.length_toList, h.receipts, List.length_map]

theorem Taken.push {sent : Array PartReceipt} {parts : List SentPart} (h : Taken sent parts)
    (body : ByteArray) (etag : Option String) :
    Taken (sent.push ⟨sent.size + 1, etag⟩) (parts ++ [⟨sent.size + 1, body, etag⟩]) where
  receipts := by
    simp only [Array.toList_push, List.map_append, h.receipts, List.map_cons, List.map_nil,
      SentPart.receipt]
  numbered := h.numbered.append (by rw [h.size_eq])

theorem size_read {p : Nat} {parts : List SentPart} {held read : ByteArray}
    (hfull : ∀ x ∈ parts, x.body.size = p) (hread : SentPart.joined parts ++ held = read) :
    read.size = parts.length * p + held.size := by
  have hbodies : ∀ body ∈ parts.map (·.body), body.size = p := by
    intro body hb
    obtain ⟨x, hx, rfl⟩ := List.mem_map.mp hb
    exact hfull x hx
  rw [← hread, ByteArray.size_append, SentPart.joined, Bytes.size_join hbodies, List.length_map]

private theorem cut_of_isReady {p : Nat} (hp : 0 < p) {held : Held} (hr : held.isReady p = true)
    (hpos : 0 < held.bytes.size) : Cut p held.ended (held.part p) (held.rest p) where
  ended_eq := rfl
  pos := by rw [Held.size_part]; omega
  size_le := by rw [Held.size_part]; omega
  full := by rw [Held.size_part, Held.size_rest]; omega
  rest_pos := by
    intro he
    rcases Held.isReady_eq_true.mp hr with h | h
    · rw [h] at he
      cases he
    · rw [Held.size_rest]
      omega

private theorem logged_afterOpening {object : NewObject} {p : Nat} (hp : 0 < p) (held : Held)
    (hle : held.ended = true → held.bytes.size ≤ p) :
    Stage.Logged object p held.bytes held.ended (.afterOpening p held) [] := by
  unfold Stage.afterOpening
  split
  · rename_i hr
    have hcut := held.part_append_rest p
    dsimp only
    split
    · rename_i he
      simp only [Bool.and_eq_true, Held.ended_rest, Held.isEmpty_eq_true] at he
      rw [ByteArray.size_eq_zero_iff.mp he.2, ByteArray.append_empty] at hcut
      exact ⟨rfl, hcut, he.1, hle he.1⟩
    · rename_i he
      simp only [Bool.and_eq_true, Held.ended_rest, Held.isEmpty_eq_true, Held.size_rest,
        not_and] at he
      have hlt : p < held.bytes.size := by
        rcases Held.isReady_eq_true.mp hr with hended | hlt
        · have := he hended
          omega
        · exact hlt
      refine ⟨rfl, hcut, cut_of_isReady hp hr (by omega), ?_⟩
      rw [Held.size_rest]
      omega
  · rename_i hr
    simp only [Held.isReady_eq_true, not_or, Bool.not_eq_true, Nat.not_lt] at hr
    obtain ⟨hended, hsize⟩ := hr
    exact ⟨rfl, hended ▸ rfl, hended, hsize⟩

private theorem logged_afterGathering {object : NewObject} {p : Nat} (hp : 0 < p)
    {read : ByteArray} {id : String} {sent : Array PartReceipt} {parts : List SentPart}
    {held : Held} (hlt : p < read.size) (hpos : 0 < held.bytes.size) (hmax : sent.size ≤ maxParts)
    (htaken : Taken sent parts) (hfull : ∀ x ∈ parts, x.body.size = p)
    (hread : SentPart.joined parts ++ held.bytes = read) :
    Stage.Logged object p read held.ended (.afterGathering p id sent held)
      (opened object id parts) := by
  unfold Stage.afterGathering
  split
  · rename_i hr
    have hsome : held.isEmpty = false := by
      rw [Bool.eq_false_iff, ne_eq, Held.isEmpty_eq_true]
      omega
    rw [hsome]
    split
    · rename_i h
      cases h
    · split
      · rename_i hmany
        have hlen : parts.length = maxParts := by
          rw [← htaken.size_eq]
          omega
        refine Stopped.tooMany htaken.numbered hlen ?_
        rw [size_read hfull hread, hlen]
        omega
      · rename_i hroom
        refine ⟨hlt, cut_of_isReady hp hr hpos, Nat.lt_of_not_le hroom, parts, rfl, htaken, hfull, ?_⟩
        rw [Held.part_append_rest, hread]
  · rename_i hr
    simp only [Held.isReady_eq_true, not_or, Bool.not_eq_true, Nat.not_lt] at hr
    exact ⟨hlt, hr.1, hr.1, hpos, hr.2, hmax, parts, rfl, htaken, hfull, hread⟩

private theorem logged_afterSending {object : NewObject} {p : Nat} (hp : 0 < p) {read : ByteArray}
    {ended : Bool} {id : String} {sent : Array PartReceipt} {part : ByteArray} {rest : Held}
    {events : List Event}
    (h : Stage.Logged object p read ended (.sending id sent part rest) events)
    (a : Except Fault (Option String)) :
    Stage.Logged object p read ended (.afterSending p id sent rest a)
      (events ++ [⟨.uploadPart object.address id (sent.size + 1) (.ofBytes part), a⟩]) := by
  obtain ⟨hlt, hcut, hroom, parts, rfl, htaken, hfull, hread⟩ := h
  cases a with
  | error why => exact Stopped.part htaken.numbered (by rw [htaken.size_eq])
  | ok etag =>
    have htaken' := htaken.push part etag
    have hread' : SentPart.joined (parts ++ [⟨sent.size + 1, part, etag⟩]) ++ rest.bytes = read := by
      rw [SentPart.joined_append_singleton, ByteArray.append_assoc]
      exact hread
    have hevents := opened_append object id parts ⟨sent.size + 1, part, etag⟩
    simp only [Stage.afterSending]
    change Stage.Logged _ _ _ _ _ (opened object id parts ++
      [SentPart.event object.address id ⟨sent.size + 1, part, etag⟩])
    rw [← hevents]
    by_cases hempty : rest.bytes.size = 0
    · -- Nothing is left after the last part.
      have hended : ended = true := by
        cases he : ended with
        | true => rfl
        | false => have := hcut.rest_pos he; omega
      have hready : rest.isReady p = true := by
        rw [Held.isReady_eq_true, hcut.ended_eq]
        exact Or.inl hended
      rw [Stage.afterGathering, if_pos hready, if_pos (Held.isEmpty_eq_true.mpr hempty)]
      refine ⟨hlt, hended, ?_, _, rfl, htaken', ⟨parts, _, rfl, hfull, hcut.pos, hcut.size_le⟩, ?_⟩
      · rw [Array.size_push]
        omega
      · rw [ByteArray.size_eq_zero_iff.mp hempty, ByteArray.append_empty] at hread'
        exact hread'
    · rw [← hcut.ended_eq]
      refine logged_afterGathering hp hlt (by omega) ?_ htaken' ?_ hread'
      · rw [Array.size_push]
        omega
      · intro x hx
        rcases List.mem_append.mp hx with hx | hx
        · exact hfull x hx
        · rw [List.mem_singleton.mp hx]
          exact hcut.full (by omega)

private theorem logged_answer {object : NewObject} {p : Nat} (hp : 0 < p) {read : ByteArray}
    {ended : Bool} {stage : Stage} {events : List Event} {r : Request} {next : Answer r → Stage}
    (ha : Asks object p stage r next) (h : stage.Logged object p read ended events) (a : Answer r) :
    (next a).Logged object p read ended (events ++ [⟨r, a⟩]) := by
  cases ha with
  | storing body =>
    obtain ⟨rfl, rfl, hended, hle⟩ := h
    cases a with
    | error why => exact Failed.early Stopped.put
    | ok a => exact ⟨hended, Stored.whole hle⟩
  | creating part rest =>
    obtain ⟨rfl, hread, hcut, hpos⟩ := h
    rcases a with why | id | id
    · exact Failed.early Stopped.create
    · exact Failed.early Stopped.unnamed
    · refine ⟨?_, hcut, by decide, [], rfl, ⟨rfl, SentPart.Numbered.nil⟩, by simp, by simpa using hread⟩
      rw [← hread, ByteArray.size_append, hcut.full hpos]
      omega
  | sending id sent part rest => exact logged_afterSending hp h a
  | completing id sent =>
    obtain ⟨hlt, hended, hmax, parts, rfl, htaken, hparted, hread⟩ := h
    cases a with
    | error why => exact Stopped.complete htaken.receipts htaken.numbered
    | ok a =>
      exact ⟨hended, Stored.inParts htaken.receipts htaken.numbered hparted
        (htaken.size_eq ▸ hmax) hlt hread⟩
  | aborting id why => exact Failed.aborted h

@[simp] theorem created_opened (object : NewObject) (id : String) (parts : List SentPart) :
    (opened object id parts).filterMap Event.createdId? = [id] := by
  have hparts : (parts.map (·.event object.address id)).filterMap Event.createdId? = [] := by
    rw [List.filterMap_eq_nil_iff]
    intro e he
    obtain ⟨x, _, rfl⟩ := List.mem_map.mp he
    rfl
  rw [opened, List.filterMap_cons_some (f := Event.createdId?) (b := id) rfl, hparts]

@[simp] theorem aborted_opened (object : NewObject) (id : String) (parts : List SentPart) :
    (opened object id parts).filterMap Event.abortedId? = [] := by
  rw [List.filterMap_eq_nil_iff, forall_mem_opened]
  exact ⟨rfl, fun _ _ => rfl⟩

theorem Stored.aborted {object : NewObject} {p : Nat} {read : ByteArray} {events : List Event}
    (h : Stored object p read events) : events.filterMap Event.abortedId? = [] := by
  cases h with
  | whole => rfl
  | inParts =>
    rw [List.filterMap_append, aborted_opened]
    rfl

variable {σ : Type}

/-- The record of an upload that makes the only requests tells its stage. -/
theorem kept_logged (object : NewObject) {p : Nat} (hp : 0 < p) (serve : Service σ) (plan : Mishaps) :
    Kept (serve.noted plan) object p fun read ended stage x =>
      stage.Logged object p read ended x.events where
  answer := by
    intro read ended stage r next x ha h
    rw [Service.events_noted]
    exact logged_answer hp ha h _
  opening := by
    rintro read held chunk x ⟨hevents, rfl, _, _⟩
    rw [hevents]
    exact logged_afterOpening hp (Held.add ⟨read, false⟩ (some chunk)) (by simp)
  gathering := by
    rintro read id sent held chunk x ⟨hlt, hended, _, hpos, _, hmax, parts, hevents, htaken, hfull, hread⟩
    rw [hevents, ← hended]
    refine logged_afterGathering hp ?_ ?_ hmax htaken hfull ?_
    · rw [ByteArray.size_append]
      omega
    · rw [Held.bytes_add_some, ByteArray.size_append]
      omega
    · rw [Held.bytes_add_some, ← ByteArray.append_assoc, hread]
  openingEnd := by
    rintro read held x ⟨hevents, rfl, _, hle⟩
    rw [hevents]
    exact logged_afterOpening hp (Held.add ⟨read, false⟩ none) fun _ => hle
  gatheringEnd := by
    rintro read id sent held x ⟨hlt, _, _, hpos, _, hmax, parts, hevents, htaken, hfull, hread⟩
    rw [hevents]
    exact logged_afterGathering hp hlt hpos hmax htaken hfull hread
  rests := by
    intro read stage x h
    cases stage with
    | opening => exact absurd h.2.2.1 (by simp)
    | gathering => exact absurd h.2.2.1 (by simp)
    | _ => rfl

theorem logged_start (object : NewObject) (p : Nat) :
    Stage.Logged object p ByteArray.empty false (.opening Held.start) [] :=
  ⟨rfl, rfl, rfl, Nat.zero_le p⟩

end BlobStore.Upload
