import BlobStore.Memory
import BlobStore.Proofs.Upload.Account
import BlobStore.Proofs.Writer.Cancellation

/-!
# What a writer holds

The bytes that the writes have been granted are, in their order, those that the service has taken,
those of the part that is being sent, those read beyond it and those of the queue. The queue is
bounded, and so are the part and what is read beyond it: one chunk more than a part is read at most.
-/

namespace BlobStore

/-- The bytes of the object that the service has taken with a request. -/
def Event.takenBytes : Event → ByteArray
  | ⟨.put _ body, .ok ()⟩ => body.bytes
  | ⟨.uploadPart _ _ _ body, .ok _⟩ => body.bytes
  | _ => ByteArray.empty

def takenBytes (events : List Event) : ByteArray := Bytes.join (events.map Event.takenBytes)

@[simp] theorem takenBytes_nil : takenBytes [] = ByteArray.empty := rfl

@[simp] theorem takenBytes_append (events more : List Event) :
    takenBytes (events ++ more) = takenBytes events ++ takenBytes more := by
  simp only [takenBytes, List.map_append, Bytes.join_append]

private theorem takenBytes_singleton (e : Event) : takenBytes [e] = e.takenBytes :=
  ByteArray.append_empty

namespace Upload

@[simp] theorem takenBytes_opened (object : NewObject) (id : String) (parts : List SentPart) :
    takenBytes (opened object id parts) = SentPart.joined parts := by
  have hparts : (parts.map (·.event object.address id)).map Event.takenBytes =
      parts.map (·.body) := List.map_map
  show ByteArray.empty ++ Bytes.join _ = _
  rw [hparts, ByteArray.empty_append]
  rfl

namespace Stage

/-- The part that has been cut off for the next request. -/
def part : Stage → ByteArray
  | .storing body => body
  | .creating part _ => part
  | .sending _ _ part _ => part
  | _ => ByteArray.empty

/-- The bytes that have been read and are not in a part yet. -/
def pending : Stage → ByteArray
  | .opening held => held.bytes
  | .creating _ rest => rest.bytes
  | .sending _ _ _ rest => rest.bytes
  | .gathering _ _ held => held.bytes
  | _ => ByteArray.empty

/-- The upload has failed or been told to stop. -/
def hasFailed : Stage → Bool
  | .aborting _ _ => true
  | .finished (.error _) => true
  | _ => false

/-- What has been read is cut into parts before more than one chunk has come on top of a part. -/
def Fits (p c : Nat) : Stage → Prop
  | .opening held => held.bytes.size ≤ p
  | .gathering _ _ held => held.bytes.size ≤ p
  | .storing body => body.size ≤ p
  | .creating part rest => part.size + rest.bytes.size ≤ p + c
  | .sending _ _ part rest => part.size + rest.bytes.size ≤ p + c
  | _ => True

end Stage

variable {object : NewObject} {p c : Nat} {read : ByteArray} {ended : Bool}

private theorem StoredAs.takenBytes_eq {events : List Event} (h : StoredAs object read events) :
    takenBytes events = read := by
  cases h with
  | whole => exact takenBytes_singleton _
  | inParts _ hread =>
    rw [takenBytes_append, takenBytes_opened, hread, takenBytes_singleton]
    exact ByteArray.append_empty

/-- Nothing that has been read is lost as long as the upload has not failed. -/
theorem Stage.Accounted.conserved {stage : Stage} {events : List Event}
    (h : stage.Accounted object read ended events) (hf : stage.hasFailed = false) :
    takenBytes events ++ (stage.part ++ stage.pending) = read := by
  cases stage with
  | opening held =>
    obtain ⟨rfl, hread⟩ := h
    simpa [part, pending] using hread
  | storing body =>
    obtain ⟨rfl, hread⟩ := h
    simpa [part, pending] using hread
  | creating part rest =>
    obtain ⟨rfl, hread⟩ := h
    simpa [Stage.part, pending] using hread
  | sending id sent part rest =>
    obtain ⟨parts, rfl, _, hread⟩ := h
    rw [takenBytes_opened]
    exact hread
  | gathering id sent held =>
    obtain ⟨parts, rfl, _, hread⟩ := h
    simpa [part, pending] using hread
  | completing id sent =>
    obtain ⟨parts, rfl, _, hread⟩ := h
    simpa [part, pending] using hread
  | aborting => cases hf
  | finished outcome =>
    cases outcome with
    | error why => cases hf
    | ok =>
      have hstored : StoredAs object read events := h
      simpa [part, pending] using hstored.takenBytes_eq

private theorem size_part_add_rest (p : Nat) (held : Held) :
    (held.part p).size + (held.rest p).bytes.size = held.bytes.size := by
  rw [Held.size_part, Held.size_rest]
  omega

private theorem fits_afterOpening {held : Held} (h : held.bytes.size ≤ p + c) :
    (Stage.afterOpening p held).Fits p c := by
  unfold Stage.afterOpening
  split
  · dsimp only
    split
    · show (held.part p).size ≤ p
      rw [Held.size_part]
      exact Nat.min_le_left _ _
    · show (held.part p).size + (held.rest p).bytes.size ≤ p + c
      rw [size_part_add_rest]
      exact h
  · rename_i hready
    rw [Held.isReady_eq_true, not_or] at hready
    exact Nat.le_of_not_lt hready.2

private theorem fits_afterGathering {id : String} {sent : Array PartReceipt} {held : Held}
    (h : held.bytes.size ≤ p + c) : (Stage.afterGathering p id sent held).Fits p c := by
  unfold Stage.afterGathering
  split
  · split
    · exact trivial
    · split
      · exact trivial
      · show (held.part p).size + (held.rest p).bytes.size ≤ p + c
        rw [size_part_add_rest]
        exact h
  · rename_i hready
    rw [Held.isReady_eq_true, not_or] at hready
    exact Nat.le_of_not_lt hready.2

theorem Asks.fits {stage : Stage} {r : Request} {next : Answer r → Stage}
    (ha : Asks object p stage r next) (h : stage.Fits p c) (a : Answer r) : (next a).Fits p c := by
  cases ha with
  | storing | aborting => exact trivial
  | creating =>
    rcases a with _ | _ | _
    · exact trivial
    · exact trivial
    · exact h
  | sending id sent part rest =>
    cases a with
    | error => exact trivial
    | ok =>
      have hrest : part.size + rest.bytes.size ≤ p + c := h
      apply fits_afterGathering
      omega
  | completing => cases a <;> exact trivial

private theorem fits_feed_some {stage : Stage} (h : stage.Fits p c)
    (hc : (Upload.mk object p stage).needsChunk = true) {chunk : ByteArray} (hle : chunk.size ≤ c) :
    ∃ after, feed ⟨object, p, stage⟩ (some chunk) = ⟨object, p, after⟩ ∧ after.Fits p c := by
  have hadd {held : Held} (hheld : held.bytes.size ≤ p) :
      (held.add (some chunk)).bytes.size ≤ p + c := by
    rw [Held.bytes_add_some, ByteArray.size_append]
    omega
  rcases needsChunk_eq_true hc with ⟨held, rfl⟩ | ⟨id, sent, held, rfl⟩
  · exact ⟨_, feed_opening .., fits_afterOpening (hadd h)⟩
  · exact ⟨_, feed_gathering .., fits_afterGathering (hadd h)⟩

private theorem fits_feed_none {stage : Stage} (h : stage.Fits p c)
    (hc : (Upload.mk object p stage).needsChunk = true) :
    ∃ after, feed ⟨object, p, stage⟩ none = ⟨object, p, after⟩ ∧ after.Fits p c := by
  have hadd {held : Held} (hheld : held.bytes.size ≤ p) : (held.add none).bytes.size ≤ p + c :=
    Nat.le_add_right_of_le hheld
  rcases needsChunk_eq_true hc with ⟨held, rfl⟩ | ⟨id, sent, held, rfl⟩
  · exact ⟨_, feed_opening .., fits_afterOpening (hadd h)⟩
  · exact ⟨_, feed_gathering .., fits_afterGathering (hadd h)⟩

private theorem fits_cancel {stage : Stage} (h : stage.Fits p c) :
    (Upload.mk object p stage).cancel.stage.Fits p c := by
  cases stage with
  | aborting | finished => exact h
  | _ => exact trivial

theorem Stage.Fits.size_le {stage : Stage} (h : stage.Fits p c) :
    stage.part.size + stage.pending.size ≤ p + c := by
  cases stage with
  | opening held | gathering id sent held =>
    show 0 + held.bytes.size ≤ p + c
    have hheld : held.bytes.size ≤ p := h
    omega
  | storing body => exact Nat.le_add_right_of_le h
  | creating | sending => exact h
  | completing | aborting | finished => exact Nat.zero_le _

end Upload

namespace Writer

open Upload

variable {σ : Type} {serve : Service σ} {object : NewObject} {p c : Nat}

namespace Task

/-- The chunks that wait for the upload. -/
def queue : Task → List ByteArray
  | .running _ queue _ => queue
  | _ => []

def part : Task → ByteArray
  | .running upload _ _ => upload.stage.part
  | _ => ByteArray.empty

def pending : Task → ByteArray
  | .running upload _ _ => upload.stage.pending
  | _ => ByteArray.empty

def hasFailed : Task → Bool
  | .idle => false
  | .running upload _ _ => upload.stage.hasFailed
  | .ended outcome => !outcome.toBool

/-- A task that holds no more than it may if no chunk is larger than `c`. -/
def Fits (p c : Nat) : Task → Prop
  | .running upload queue _ =>
    upload.partSize = p ∧ upload.stage.Fits p c ∧
      queue.length ≤ queueCapacity ∧ ∀ chunk ∈ queue, chunk.size ≤ c
  | _ => True

theorem Fits.bounded {task : Task} (h : task.Fits p c) :
    task.queue.length ≤ queueCapacity ∧ task.part.size + task.pending.size ≤ p + c := by
  cases task with
  | idle | ended => exact ⟨Nat.zero_le _, Nat.zero_le _⟩
  | running upload queue bodyEnded =>
    obtain ⟨_, hstage, hlen, _⟩ := h
    exact ⟨hlen, hstage.size_le⟩

theorem Turn.fits {a b : Task} {s t : σ} (h : Turn serve a s b t) (ha : a.Fits p c) :
    b.Fits p c := by
  cases h with
  | @take upload chunk queue bodyEnded s hc =>
    obtain ⟨o, size, stage⟩ := upload
    obtain ⟨rfl, hstage, hlen, hqueue⟩ := ha
    rw [List.forall_mem_cons] at hqueue
    obtain ⟨after, hfeed, hafter⟩ := fits_feed_some hstage hc hqueue.1
    rw [hfeed]
    exact ⟨rfl, hafter, Nat.le_of_succ_le hlen, hqueue.2⟩
  | @finish upload s hc =>
    obtain ⟨o, size, stage⟩ := upload
    obtain ⟨rfl, hstage, hlen, hqueue⟩ := ha
    obtain ⟨after, hfeed, hafter⟩ := fits_feed_none hstage hc
    rw [hfeed]
    exact ⟨rfl, hafter, hlen, hqueue⟩
  | @ask upload queue bodyEnded s r resume hd =>
    obtain ⟨o, size, stage⟩ := upload
    obtain ⟨rfl, hstage, hlen, hqueue⟩ := ha
    obtain ⟨next, hasks, rfl⟩ := asks_of_demand hd
    exact ⟨rfl, hasks.fits hstage _, hlen, hqueue⟩
  | report => exact trivial

private theorem fits_push {w w' : Writer} {chunk : ByteArray} (hpush : w.push? chunk = some w')
    (h : w.task.Fits p c) (hle : chunk.size ≤ c) : w'.task.Fits p c := by
  obtain ⟨upload, queue, bodyEnded, ht, hroom, rfl⟩ := push?_eq_some hpush
  rw [ht] at h
  obtain ⟨hsize, hstage, _, hqueue⟩ := h
  refine ⟨hsize, hstage, ?_, ?_⟩
  · rw [List.length_append, List.length_singleton]
    exact hroom
  · rw [List.forall_mem_append, List.forall_mem_singleton]
    exact ⟨hqueue, hle⟩

private theorem fits_start {w : Writer} (hsize : w.partSize = p) (h : w.task.Fits p c) :
    w.start.task.Fits p c := by
  obtain ⟨o, size, canceled, task⟩ := w
  cases task with
  | idle => exact ⟨hsize, Nat.zero_le _, Nat.zero_le _, List.forall_mem_nil _⟩
  | running | ended => exact h

private theorem fits_endBody {w : Writer} (h : w.task.Fits p c) : w.endBody.task.Fits p c := by
  obtain ⟨o, size, canceled, task⟩ := w
  cases task <;> exact h

end Task

/-- The size of the largest buffer that a write has been granted for. -/
def largest (written : List (ByteArray × Except Error Nat)) : Nat :=
  ((written.filter (·.2.toBool)).map (·.1.size)).foldl max 0

@[simp] theorem largest_ok (written : List (ByteArray × Except Error Nat)) (chunk : ByteArray)
    (n : Nat) : largest (written ++ [(chunk, .ok n)]) = max (largest written) chunk.size := by
  simp [largest, Except.toBool]

@[simp] theorem largest_error (written : List (ByteArray × Except Error Nat)) (chunk : ByteArray)
    (e : Error) : largest (written ++ [(chunk, .error e)]) = largest written := by
  simp [largest, Except.toBool]

namespace Session

private theorem Move.largest_le {x y : Session σ} (h : Move serve x y) :
    largest x.written ≤ largest y.written := by
  cases h with
  | cancel | notice => exact Nat.le_refl _
  | step hs =>
    cases hs with
    | turn => exact Nat.le_refl _
    | call hc =>
      cases hc with
      | skip | push =>
        rw [largest_ok]
        exact Nat.le_max_left _ _
      | fail | tell =>
        apply Nat.le_of_eq
        exact (largest_error ..).symm
      | send | refuse | close | finish => exact Nat.le_refl _

/-- A session of a writer with this part size, if no chunk is larger than `c`. -/
structure Fits (p c : Nat) (x : Session σ) : Prop where
  partSize_eq : x.writer.partSize = p
  task : x.writer.task.Fits p c

theorem Fits.call {x y : Session σ} (h : x.Fits p c) (hc : Call x y)
    (hle : largest y.written ≤ c) : y.Fits p c := by
  obtain ⟨hsize, htask⟩ := h
  cases hc with
  | fail | skip | refuse | tell | finish => exact ⟨hsize, htask⟩
  | @send chunk todo written w =>
    exact ⟨(start_frame w).2.trans hsize, Task.fits_start hsize htask⟩
  | push _ hpush =>
    rw [largest_ok] at hle
    have hchunk := Nat.le_trans (Nat.le_max_right _ _) hle
    exact ⟨(push?_frame hpush).2.trans hsize, Task.fits_push hpush htask hchunk⟩
  | @close written w =>
    have hstart := (start_frame w).2.trans hsize
    exact ⟨(endBody_frame _).2.trans hstart, Task.fits_endBody (Task.fits_start hsize htask)⟩

theorem Fits.move {x y : Session σ} (h : x.Fits p c) (hm : Move serve x y)
    (hle : largest y.written ≤ c) : y.Fits p c := by
  cases hm with
  | step hs =>
    cases hs with
    | call hc => exact h.call hc hle
    | turn hturn => exact ⟨h.partSize_eq, hturn.fits h.task⟩
  | cancel => exact ⟨h.partSize_eq, h.task⟩
  | @notice todo written caller w s upload queue bodyEnded _ hrunning =>
    have htask := h.task
    dsimp only at htask
    rw [hrunning] at htask
    obtain ⟨o, size, stage⟩ := upload
    obtain ⟨rfl, hstage, hqueue⟩ := htask
    refine ⟨h.partSize_eq, ?_⟩
    rw [cancel_eq]
    exact ⟨rfl, fits_cancel hstage, hqueue⟩

private theorem fits_moves {buffers : List ByteArray} {s : σ} {x : Session σ}
    (hx : Moves serve (start object p buffers s) x) (hle : largest x.written ≤ c) :
    x.Fits p c := by
  induction hx with
  | refl => exact ⟨rfl, trivial⟩
  | tail _ hmove ih => exact (ih (Nat.le_trans hmove.largest_le hle)).move hmove hle

/-- The bytes granted are in the hands of the service, of the upload or of the queue. -/
theorem accepted_of_follows {task : Task} {given : ByteArray} {closing : Bool}
    {x : Noted σ}
    (h : task.Follows object p (fun read ended stage x => stage.Tracked object read ended x.events)
      given closing x) (hf : task.hasFailed = false) :
    given = takenBytes x.events ++ (task.part ++ (task.pending ++ Bytes.join task.queue)) := by
  cases task with
  | idle =>
    obtain ⟨rfl, _, _, hevents, _⟩ := h
    rw [hevents]
    simp [Task.part, Task.pending, Task.queue]
  | running upload queue bodyEnded =>
    obtain ⟨_, read, ended, stage, rfl, hgiven, _, _, hacc⟩ := h
    rw [← hgiven, ← hacc.conserved hf]
    simp only [ByteArray.append_assoc]
    rfl
  | ended outcome =>
    cases outcome with
    | error => cases hf
    | ok =>
      obtain ⟨read, rest, ended, hgiven, hend, hended, hacc⟩ := h
      obtain ⟨_, rfl⟩ := hend hended
      rw [Bytes.join_nil, ByteArray.append_empty] at hgiven
      rw [← hgiven, ← hacc.conserved rfl]
      rfl

/-- Under every schedule, and whatever the service does: unless the upload has failed or been told
to stop, the bytes that the writes have been granted are those that the service has taken, those of
the part at hand, those read beyond it and those of the queue, in this order. There are never more
chunks in the queue than it has room for, and what the upload holds is never more than a part and
the largest chunk that has been written. -/
theorem accepted_conserved (serve : Service σ) (plan : Mishaps) (object : NewObject) (p : Nat)
    (buffers : List ByteArray) (s : σ) {x : Session (Noted σ)}
    (hx : Moves (serve.noted plan) (start object p buffers ⟨s, []⟩) x) :
    (x.writer.task.hasFailed = false →
        accepted x.written = takenBytes x.state.events ++
          (x.writer.task.part ++ (x.writer.task.pending ++ Bytes.join x.writer.task.queue))) ∧
      x.writer.task.queue.length ≤ 4 ∧
      x.writer.task.part.size + x.writer.task.pending.size ≤ p + largest x.written := by
  have hlasting := lasting_tracked (Service.events_noted serve plan) object p
  have hstart : Orderly object p (fun read ended stage x => stage.Tracked object read ended x.events)
      buffers (start object p buffers (⟨s, []⟩ : Noted σ)) := orderly_start (tracked_start object)
  have horderly := hstart.moves hlasting (fun h => h.1) hx
  have hfits := fits_moves hx (Nat.le_refl _)
  exact ⟨accepted_of_follows horderly.task, hfits.task.bounded⟩

/-- Of four bytes one has been taken, one is being sent, one is pending and one is in the queue. -/
theorem accepted_conserved_spread :
    ∃ x, Moves (Memory.serve.noted .none)
        (start ⟨⟨"bucket", "key"⟩, .none, none⟩ 1 [⟨#[1, 2, 3]⟩, ⟨#[4]⟩] ⟨Memory.empty, []⟩) x ∧
      takenBytes x.state.events = ⟨#[1]⟩ ∧ x.writer.task.part = ⟨#[2]⟩ ∧
      x.writer.task.pending = ⟨#[3]⟩ ∧ x.writer.task.queue = [⟨#[4]⟩] ∧
      accepted x.written = takenBytes x.state.events ++
        (x.writer.task.part ++ (x.writer.task.pending ++ Bytes.join x.writer.task.queue)) := by
  have hx : Moves (Memory.serve.noted .none)
      (start ⟨⟨"bucket", "key"⟩, .none, none⟩ 1 [⟨#[1, 2, 3]⟩, ⟨#[4]⟩] ⟨Memory.empty, []⟩) _ :=
    .head (.step (.call (.send (fun e h => by cases h) rfl))) <|
    .head (.step (.call (.push rfl rfl))) <|
    .head (.step (.turn (.take rfl))) <|
    .head (.step (.turn (.ask rfl))) <|
    .head (.step (.turn (.ask rfl))) <|
    .head (.step (.call (.send (fun e h => by cases h) rfl))) <|
    .single (.step (.call (.push rfl rfl)))
  have hconserved := accepted_conserved Memory.serve .none _ 1 _ Memory.empty hx
  exact ⟨_, hx, rfl, rfl, rfl, rfl, hconserved.1 rfl⟩

end Session

end Writer

end BlobStore
