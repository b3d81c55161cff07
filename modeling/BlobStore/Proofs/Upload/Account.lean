import BlobStore.Proofs.Upload.Ending
import BlobStore.Proofs.Upload.Log

/-!
# The account of an upload

At each stage the requests that an upload has made account for all bytes that it has read, and for
the parts that the service still holds of it, whether or not it has been told to stop.
-/

namespace BlobStore.Upload

/-- What is on record of an upload that has failed or been told to stop, and the name under which
parts of it may be left. Before the end of the body nothing has been stored or completed. -/
inductive GivenUp (object : NewObject) (ended : Bool) : Option String → List Event → Prop
  | unstarted : GivenUp object ended none []
  | put {body : ByteArray} {why : Fault} :
      ended = true → GivenUp object ended none [⟨.put object (.ofBytes body), .error why⟩]
  | create {why : Fault} :
      GivenUp object ended none [⟨.createUpload object.address object.headers, .error why⟩]
  | unnamed :
      GivenUp object ended none [⟨.createUpload object.address object.headers, .ok none⟩]
  | opened {id : String} {parts : List SentPart} :
      GivenUp object ended (some id) (opened object id parts)
  | part {id : String} {parts : List SentPart} {number : Nat} {body : ByteArray} {why : Fault} :
      SentPart.Numbered parts → number = parts.length + 1 →
      GivenUp object ended (some id)
        (Upload.opened object id parts ++ [⟨.uploadPart object.address id number (.ofBytes body), .error why⟩])
  | complete {id : String} {parts : List SentPart} {sent : Array PartReceipt} {why : Fault} :
      ended = true →
      GivenUp object ended (some id)
        (Upload.opened object id parts ++ [⟨.completeUpload object.address id sent, .error why⟩])

/-- What is on record of an upload that has ended without storing anything. -/
inductive Abandoned (object : NewObject) (ended : Bool) : List Event → Prop
  | early {events : List Event} :
      GivenUp object ended none events → Abandoned object ended events
  | aborted {id : String} {events : List Event} {answer : Answer (.abortUpload object.address id)} :
      GivenUp object ended (some id) events →
      Abandoned object ended (events ++ [⟨.abortUpload object.address id, answer⟩])

/-- What is on record of an upload that has stored these bytes. -/
inductive StoredAs (object : NewObject) (read : ByteArray) : List Event → Prop
  | whole : StoredAs object read [⟨.put object (.ofBytes read), .ok ()⟩]
  | inParts {id : String} {parts : List SentPart} {sent : Array PartReceipt} :
      Taken sent parts → SentPart.joined parts = read →
      StoredAs object read
        (opened object id parts ++ [⟨.completeUpload object.address id sent, .ok ()⟩])

namespace Stage

/-- The requests on record and the stage account for the bytes read. -/
def Accounted (object : NewObject) (read : ByteArray) (ended : Bool) : Stage → List Event → Prop
  | .opening held, events => events = [] ∧ held.bytes = read
  | .storing body, events => events = [] ∧ body = read
  | .creating part rest, events => events = [] ∧ part ++ rest.bytes = read
  | .sending id sent part rest, events =>
    ∃ parts, events = opened object id parts ∧ Taken sent parts ∧
      SentPart.joined parts ++ (part ++ rest.bytes) = read
  | .gathering id sent held, events =>
    ∃ parts, events = opened object id parts ∧ Taken sent parts ∧
      SentPart.joined parts ++ held.bytes = read
  | .completing id sent, events =>
    ∃ parts, events = opened object id parts ∧ Taken sent parts ∧ SentPart.joined parts = read
  | .aborting id _, events => GivenUp object ended (some id) events
  | .finished (.error _), events => Abandoned object ended events
  | .finished (.ok ()), events => StoredAs object read events

def Tracked (object : NewObject) (read : ByteArray) (ended : Bool) (stage : Stage)
    (events : List Event) : Prop :=
  stage.KnowsEnd ended ∧ stage.Accounted object read ended events

end Stage

variable {object : NewObject} {p : Nat} {read : ByteArray} {ended : Bool}

theorem Stopped.givenUp {id? : Option String} {events : List Event} {why : Fault}
    (h : Stopped object p read id? events why) : GivenUp object true id? events := by
  cases h with
  | put => exact .put rfl
  | create => exact .create
  | unnamed => exact .unnamed
  | part hnumbered hnumber => exact .part hnumbered hnumber
  | tooMany => exact .opened
  | complete => exact .complete rfl

theorem Failed.abandoned {events : List Event} {why : Fault} (h : Failed object p read events why) :
    Abandoned object true events := by
  cases h with
  | early hs => exact .early hs.givenUp
  | aborted hs => exact .aborted hs.givenUp

theorem GivenUp.created {id? : Option String} {events : List Event}
    (h : GivenUp object ended id? events) : events.filterMap Event.createdId? = id?.toList := by
  cases h with
  | unstarted | put | create | unnamed => rfl
  | opened => exact created_opened ..
  | part | complete =>
    rw [List.filterMap_append, created_opened]
    rfl

theorem GivenUp.aborted {id? : Option String} {events : List Event}
    (h : GivenUp object ended id? events) : events.filterMap Event.abortedId? = [] := by
  cases h with
  | unstarted | put | create | unnamed => rfl
  | opened => exact aborted_opened ..
  | part | complete =>
    rw [List.filterMap_append, aborted_opened]
    rfl

private theorem isStoring_opened (object : NewObject) (id : String) (parts : List SentPart) :
    ∀ e ∈ opened object id parts, e.request.isStoring = false :=
  forall_mem_opened.mpr ⟨rfl, fun _ _ => rfl⟩

theorem GivenUp.unstored {id? : Option String} {events : List Event}
    (h : GivenUp object false id? events) : ∀ e ∈ events, e.request.isStoring = false := by
  cases h with
  | unstarted => exact List.forall_mem_nil _
  | put hended | complete hended => cases hended
  | create | unnamed => exact List.forall_mem_singleton.mpr rfl
  | opened => exact isStoring_opened _ _ _
  | part =>
    rw [List.forall_mem_append]
    exact ⟨isStoring_opened _ _ _, List.forall_mem_singleton.mpr rfl⟩

theorem Abandoned.unstored {events : List Event} (h : Abandoned object false events) :
    ∀ e ∈ events, e.request.isStoring = false := by
  cases h with
  | early hg => exact hg.unstored
  | aborted hg =>
    rw [List.forall_mem_append]
    exact ⟨hg.unstored, List.forall_mem_singleton.mpr rfl⟩

theorem Abandoned.aborted_eq {events : List Event} (h : Abandoned object ended events) :
    ∃ id? : Option String, events.filterMap Event.createdId? = id?.toList ∧
      events.filterMap Event.abortedId? = id?.toList := by
  cases h with
  | early hg => exact ⟨none, hg.created, hg.aborted⟩
  | @aborted id before answer hg =>
    refine ⟨some id, ?_, ?_⟩
    · rw [List.filterMap_append, hg.created]
      rfl
    · rw [List.filterMap_append, hg.aborted]
      rfl

private theorem accounted_afterOpening (held : Held) :
    (Stage.afterOpening p held).Accounted object held.bytes ended [] := by
  unfold Stage.afterOpening
  split
  · have hcut := held.part_append_rest p
    dsimp only
    split
    · rename_i hlast
      rw [Bool.and_eq_true, Held.isEmpty_eq_true] at hlast
      rw [ByteArray.size_eq_zero_iff.mp hlast.2, ByteArray.append_empty] at hcut
      exact ⟨rfl, hcut⟩
    · exact ⟨rfl, hcut⟩
  · exact ⟨rfl, rfl⟩

private theorem accounted_afterGathering {id : String} {sent : Array PartReceipt}
    {parts : List SentPart} {held : Held} (htaken : Taken sent parts)
    (hread : SentPart.joined parts ++ held.bytes = read) :
    (Stage.afterGathering p id sent held).Accounted object read ended (opened object id parts) := by
  unfold Stage.afterGathering
  split
  · split
    · rename_i hempty
      rw [Held.isEmpty_eq_true] at hempty
      rw [ByteArray.size_eq_zero_iff.mp hempty, ByteArray.append_empty] at hread
      exact ⟨parts, rfl, htaken, hread⟩
    · split
      · exact GivenUp.opened
      · refine ⟨parts, rfl, htaken, ?_⟩
        rw [Held.part_append_rest, hread]
  · exact ⟨parts, rfl, htaken, hread⟩

private theorem accounted_afterSending {id : String} {sent : Array PartReceipt} {part : ByteArray}
    {rest : Held} {events : List Event}
    (h : Stage.Accounted object read ended (.sending id sent part rest) events)
    (a : Except Fault (Option String)) :
    (Stage.afterSending p id sent rest a).Accounted object read ended
      (events ++ [⟨.uploadPart object.address id (sent.size + 1) (.ofBytes part), a⟩]) := by
  obtain ⟨parts, rfl, htaken, hread⟩ := h
  cases a with
  | error why => exact GivenUp.part htaken.numbered (by rw [htaken.size_eq])
  | ok etag =>
    have hevents := opened_append object id parts ⟨sent.size + 1, part, etag⟩
    have hread' : SentPart.joined (parts ++ [⟨sent.size + 1, part, etag⟩]) ++ rest.bytes = read := by
      rw [SentPart.joined_append_singleton, ByteArray.append_assoc, hread]
    rw [Stage.afterSending]
    change Stage.Accounted object read ended _
      (opened object id parts ++ [SentPart.event object.address id ⟨sent.size + 1, part, etag⟩])
    rw [← hevents]
    exact accounted_afterGathering (htaken.push part etag) hread'

private theorem Asks.tracked {stage : Stage} {events : List Event} {r : Request}
    {next : Answer r → Stage} (ha : Asks object p stage r next)
    (h : stage.Tracked object read ended events) (a : Answer r) :
    (next a).Tracked object read ended (events ++ [⟨r, a⟩]) := by
  refine ⟨ha.knowsEnd h.1 a, ?_⟩
  obtain ⟨hend, hacc⟩ := h
  cases ha with
  | storing body =>
    obtain ⟨rfl, rfl⟩ := hacc
    cases a with
    | error why => exact Abandoned.early (.put hend)
    | ok => exact StoredAs.whole
  | creating part rest =>
    obtain ⟨rfl, hread⟩ := hacc
    rcases a with why | id | id
    · exact Abandoned.early .create
    · exact Abandoned.early .unnamed
    · exact ⟨[], rfl, ⟨rfl, SentPart.Numbered.nil⟩, by simpa using hread⟩
  | sending id sent part rest => exact accounted_afterSending hacc a
  | completing id sent =>
    obtain ⟨parts, rfl, htaken, hread⟩ := hacc
    cases a with
    | error why => exact GivenUp.complete hend
    | ok => exact StoredAs.inParts htaken hread
  | aborting id why => exact Abandoned.aborted hacc

private theorem tracked_cancel {stage : Stage} {events : List Event} (hr : stage.isReading = true)
    (h : stage.Tracked object read ended events) :
    (Upload.mk object p stage).cancel.stage.Tracked object read ended events := by
  obtain ⟨_, hacc⟩ := h
  cases stage with
  | aborting | finished => cases hr
  | opening | storing | creating =>
    obtain ⟨rfl, _⟩ := hacc
    exact ⟨trivial, Abandoned.early .unstarted⟩
  | sending | gathering | completing =>
    obtain ⟨parts, rfl, _⟩ := hacc
    exact ⟨trivial, GivenUp.opened⟩

/-- An upload that waits for a chunk could be given up with what is on record. -/
theorem accounted_waiting {stage : Stage} {events : List Event}
    (h : stage.Accounted object read ended events)
    (hc : (Upload.mk object p stage).needsChunk = true) : ∃ id?, GivenUp object ended id? events := by
  rcases needsChunk_eq_true hc with ⟨held, rfl⟩ | ⟨id, sent, held, rfl⟩
  · obtain ⟨rfl, _⟩ := h
    exact ⟨none, .unstarted⟩
  · obtain ⟨parts, rfl, _⟩ := h
    exact ⟨some id, .opened⟩

variable {σ : Type}

/-- Whatever the service, the requests that it is told to have got account for the upload. -/
theorem lasting_tracked {serve : Service σ} {events : σ → List Event}
    (hevents : ∀ r s, events (serve r s).2 = events s ++ [⟨r, (serve r s).1⟩])
    (object : NewObject) (p : Nat) :
    Lasting serve object p fun read ended stage s => stage.Tracked object read ended (events s) where
  answer := by
    intro read ended stage r next s ha h
    rw [hevents]
    exact ha.tracked h _
  opening := by
    rintro read held chunk s ⟨hend, hnone, rfl⟩
    rw [hnone]
    exact ⟨knowsEnd_opening hend.1 chunk, accounted_afterOpening (held.add (some chunk))⟩
  gathering := by
    rintro read id sent held chunk s ⟨hend, parts, hopened, htaken, hread⟩
    rw [hopened]
    refine ⟨knowsEnd_gathering hend.1 chunk, accounted_afterGathering htaken ?_⟩
    rw [Held.bytes_add_some, ← ByteArray.append_assoc, hread]
  openingEnd := by
    rintro read held s ⟨hend, hnone, rfl⟩
    rw [hnone]
    exact ⟨knowsEnd_afterOpening p _, accounted_afterOpening (held.add none)⟩
  gatheringEnd := by
    rintro read id sent held s ⟨_, parts, hopened, htaken, hread⟩
    rw [hopened]
    exact ⟨knowsEnd_afterGathering p _ _ _, accounted_afterGathering htaken hread⟩
  rests := fun h => knowsEnd_needsChunk h.1
  canceled := tracked_cancel

theorem tracked_start (object : NewObject) :
    (Stage.opening Held.start).Tracked object ByteArray.empty false [] :=
  ⟨⟨rfl, rfl⟩, rfl, rfl⟩

end BlobStore.Upload
