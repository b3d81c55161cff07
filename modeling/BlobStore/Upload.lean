import BlobStore.Service

/-!
# Uploads

An upload takes the chunks of a body and stores them as one object. A body of at most one part
goes out in a single request; a longer one is sent part by part, and is aborted when anything goes
wrong, so that no parts are left behind.

An upload is a value that tells what it needs next: a chunk, the answer to a request, or nothing
any more. Given that, it becomes the next upload. One chunk is read beyond the part at hand, so
that a body of exactly one part is known to be complete.
-/

namespace BlobStore

/-- Part sizes are at least 5 MiB, which is also the size used when none is asked for. -/
def minPartSize : Nat := 5 * 1024 * 1024

def maxPartSize : Nat := 5 * 1024 * 1024 * 1024

/-- The part size used when `requested` bytes are asked for; zero leaves the choice open. -/
def partSizeFor (requested : Nat) : Nat :=
  if requested = 0 then minPartSize else min (max requested minPartSize) maxPartSize

/-- Bytes of the body that have been read and not yet sent. -/
structure Held where
  bytes : ByteArray
  ended : Bool

namespace Held

def start : Held := ⟨ByteArray.empty, false⟩

/-- Takes in a chunk, or the end of the body. -/
def add (h : Held) : Option ByteArray → Held
  | some chunk => { h with bytes := h.bytes ++ chunk }
  | none => { h with ended := true }

/-- Whether the next part can be cut off: more than a part is there, or no more will come. -/
def isReady (partSize : Nat) (h : Held) : Bool := h.ended || partSize < h.bytes.size

def part (partSize : Nat) (h : Held) : ByteArray := h.bytes.extract 0 partSize

def rest (partSize : Nat) (h : Held) : Held :=
  { h with bytes := h.bytes.extract partSize h.bytes.size }

def isEmpty (h : Held) : Bool := h.bytes.size = 0

end Held

inductive Upload.Stage where
  /-- The first part is being read. -/
  | opening (held : Held)
  /-- The whole body is sent. -/
  | storing (body : ByteArray)
  /-- An upload in parts is started. -/
  | creating (part : ByteArray) (rest : Held)
  | sending (uploadId : String) (sent : Array PartReceipt) (part : ByteArray) (rest : Held)
  /-- The next part is being read. -/
  | gathering (uploadId : String) (sent : Array PartReceipt) (held : Held)
  | completing (uploadId : String) (sent : Array PartReceipt)
  | aborting (uploadId : String) (why : Fault)
  | finished (outcome : Except Fault Unit)

structure Upload where
  object : NewObject
  partSize : Nat
  stage : Upload.Stage

namespace Upload

def new (object : NewObject) (partSize : Nat) : Upload := ⟨object, partSize, .opening Held.start⟩

/-- What an upload needs to go on. -/
inductive Demand where
  /-- The next chunk of the body, or its end. -/
  | chunk (resume : Option ByteArray → Upload)
  | answer (request : Request) (resume : Answer request → Upload)
  | nothing (outcome : Except Fault Unit)

namespace Stage

/-- Once the first part is there, the body is sent whole if nothing is left of it. -/
def afterOpening (partSize : Nat) (held : Held) : Stage :=
  if held.isReady partSize then
    let part := held.part partSize
    let rest := held.rest partSize
    if rest.ended && rest.isEmpty then .storing part else .creating part rest
  else .opening held

/-- Once the next part is there, it is sent, unless there is none or too many have been sent. -/
def afterGathering (partSize : Nat) (uploadId : String) (sent : Array PartReceipt) (held : Held) :
    Stage :=
  if held.isReady partSize then
    if held.isEmpty then .completing uploadId sent
    else if maxParts ≤ sent.size then .aborting uploadId (.invalidRequest (.tooManyParts partSize))
    else .sending uploadId sent (held.part partSize) (held.rest partSize)
  else .gathering uploadId sent held

def afterCreating (part : ByteArray) (rest : Held) : Except Fault (Option String) → Stage
  | .ok (some uploadId) => .sending uploadId #[] part rest
  | .ok none => .finished (.error (.invalidRequest .noUploadId))
  | .error e => .finished (.error e)

def afterSending (partSize : Nat) (uploadId : String) (sent : Array PartReceipt) (rest : Held) :
    Except Fault (Option String) → Stage
  | .ok etag => afterGathering partSize uploadId (sent.push ⟨sent.size + 1, etag⟩) rest
  | .error e => .aborting uploadId e

def afterCompleting (uploadId : String) : Except Fault Unit → Stage
  | .ok () => .finished (.ok ())
  | .error e => .aborting uploadId e

/-- A bound on the moves that can still follow. It goes down with every answer and with the end of
the body, and a chunk does not raise it. -/
def rank : Stage → Nat
  | .opening _ => 2 * maxParts + 6
  | .creating _ _ => 2 * maxParts + 5
  | .sending _ sent _ _ => 2 * (maxParts - sent.size) + 4
  | .gathering _ sent _ => if sent.size < maxParts then 2 * (maxParts - sent.size) + 5 else 3
  | .completing _ _ => 2
  | .storing _ => 1
  | .aborting _ _ => 1
  | .finished _ => 0

theorem rank_afterCreating (part : ByteArray) (rest : Held) (a : Except Fault (Option String)) :
    (afterCreating part rest a).rank < 2 * maxParts + 5 := by
  rcases a with _ | _ | _ <;> simp [afterCreating, rank]

theorem rank_afterGathering (partSize : Nat) (uploadId : String) (sent : Array PartReceipt)
    (held : Held) :
    (afterGathering partSize uploadId sent held).rank ≤ (gathering uploadId sent held).rank := by
  unfold afterGathering
  split
  · split
    · simp only [rank]
      split <;> omega
    · split
      · simp only [rank]
        split <;> omega
      · rename_i h
        simp only [rank, if_pos (Nat.lt_of_not_le h)]
        omega
  · exact Nat.le_refl _

theorem rank_afterSending (partSize : Nat) (uploadId : String) (sent : Array PartReceipt)
    (rest : Held) (a : Except Fault (Option String)) :
    (afterSending partSize uploadId sent rest a).rank < 2 * (maxParts - sent.size) + 4 := by
  rcases a with _ | etag
  · simp [afterSending, rank]
  · refine Nat.lt_of_le_of_lt (rank_afterGathering _ _ _ _) ?_
    simp only [rank, Array.size_push]
    split <;> omega

theorem rank_afterCompleting (uploadId : String) (a : Except Fault Unit) :
    (afterCompleting uploadId a).rank < 2 := by
  rcases a with _ | _ <;> simp [afterCompleting, rank]

end Stage

def demand (u : Upload) : Demand :=
  let go (stage : Stage) : Upload := { u with stage }
  match u.stage with
  | .opening held => .chunk fun c => go (.afterOpening u.partSize (held.add c))
  | .storing body => .answer (.put u.object (.ofBytes body)) fun a => go (.finished a)
  | .creating part rest =>
    .answer (.createUpload u.object.address u.object.headers) fun a => go (.afterCreating part rest a)
  | .sending uploadId sent part rest =>
    .answer (.uploadPart u.object.address uploadId (sent.size + 1) (.ofBytes part)) fun a =>
      go (.afterSending u.partSize uploadId sent rest a)
  | .gathering uploadId sent held => .chunk fun c => go (.afterGathering u.partSize uploadId sent (held.add c))
  | .completing uploadId sent =>
    .answer (.completeUpload u.object.address uploadId sent) fun a => go (.afterCompleting uploadId a)
  | .aborting uploadId why =>
    .answer (.abortUpload u.object.address uploadId) fun _ => go (.finished (.error why))
  | .finished outcome => .nothing outcome

/-- The upload is given up; parts that may have been sent are to be aborted. -/
def cancel (u : Upload) : Upload :=
  match u.stage with
  | .sending uploadId _ _ _ => { u with stage := .aborting uploadId .canceled }
  | .gathering uploadId _ _ => { u with stage := .aborting uploadId .canceled }
  | .completing uploadId _ => { u with stage := .aborting uploadId .canceled }
  | .opening _ => { u with stage := .finished (.error .canceled) }
  | .storing _ => { u with stage := .finished (.error .canceled) }
  | .creating _ _ => { u with stage := .finished (.error .canceled) }
  | .aborting _ _ => u
  | .finished _ => u

theorem rank_lt_of_demand {u : Upload} {r : Request} {resume : Answer r → Upload}
    (h : u.demand = .answer r resume) (a : Answer r) : (resume a).stage.rank < u.stage.rank := by
  obtain ⟨object, partSize, stage⟩ := u
  cases stage <;> simp only [demand, Demand.answer.injEq, reduceCtorEq] at h
  all_goals
    obtain ⟨rfl, h⟩ := h
    cases h
  · simp [Stage.rank]
  · exact Stage.rank_afterCreating _ _ a
  · exact Stage.rank_afterSending _ _ _ _ a
  · exact Stage.rank_afterCompleting _ a
  · simp [Stage.rank]

variable {σ : Type}

/-- Makes requests until a chunk is needed or the upload has finished. -/
def settle (serve : Service σ) (u : Upload) (s : σ) : Upload × σ :=
  match _h : u.demand with
  | .answer r resume =>
    let (a, s) := serve r s
    settle serve (resume a) s
  | .chunk _ => (u, s)
  | .nothing _ => (u, s)
termination_by u.stage.rank
decreasing_by exact rank_lt_of_demand _h _

/-- Hands a chunk, or the end of the body, to an upload that needs one. -/
def feed (u : Upload) (chunk : Option ByteArray) : Upload :=
  match u.demand with
  | .chunk resume => resume chunk
  | _ => u

def needsChunk (u : Upload) : Bool :=
  match u.demand with
  | .chunk _ => true
  | _ => false

/-- How the upload ended. One that has not ended counts as canceled. -/
def outcome (u : Upload) : Except Fault Unit :=
  match u.stage with
  | .finished outcome => outcome
  | _ => .error .canceled

/-- How a body goes on after its chunks. -/
inductive Ending where
  | complete
  | canceled
  deriving DecidableEq

def run (serve : Service σ) (ending : Ending) : List ByteArray → Upload → σ → Except Fault Unit × σ
  | [], u, s =>
    let u := match ending with
      | .complete => u.feed none
      | .canceled => u.cancel
    let (u, s) := u.settle serve s
    (u.outcome, s)
  | chunk :: rest, u, s =>
    if u.needsChunk then
      let (u, s) := (u.feed (some chunk)).settle serve s
      run serve ending rest u s
    else (u.outcome, s)

def store (serve : Service σ) (object : NewObject) (partSize : Nat) (ending : Ending)
    (chunks : List ByteArray) (s : σ) : Except Fault Unit × σ :=
  run serve ending chunks (new object partSize) s

end Upload

end BlobStore
