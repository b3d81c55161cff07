import BlobStore.Error
import BlobStore.Upload

/-!
# Writers

A writer turns a series of writes into one upload. Chunks go through a short queue into a task
that runs the upload; a write waits while the queue is full. The task starts with the first write
that is not empty, or when the writer is closed. When it ends it records its outcome, and every
later call of the writer reports that.

The moves of the writer and of the task are functions of their own, so that they can be put in any
order: `start`, `push` and `endBody` on one side, `poll` on the other, and `cancel` from outside.
-/

namespace BlobStore

/-- How many chunks may wait in the queue. -/
def queueCapacity : Nat := 4

inductive Writer.Task where
  | idle
  | running (upload : Upload) (queue : List ByteArray) (bodyEnded : Bool)
  | ended (outcome : Except Fault Unit)

structure Writer where
  object : NewObject
  partSize : Nat
  canceled : Bool
  task : Writer.Task

namespace Writer

def new (object : NewObject) (partSize : Nat) : Writer := ⟨object, partSize, false, .idle⟩

def start (w : Writer) : Writer :=
  match w.task with
  | .idle => { w with task := .running (.new w.object w.partSize) [] false }
  | _ => w

def cancel (w : Writer) : Writer := { w with canceled := true }

/-- Marks the end of the body. -/
def endBody (w : Writer) : Writer :=
  match w.task with
  | .running upload queue _ => { w with task := .running upload queue true }
  | _ => w

/-- Puts a chunk into the queue if there is room. -/
def push? (w : Writer) (chunk : ByteArray) : Option Writer :=
  match w.task with
  | .running upload queue bodyEnded =>
    if queue.length < queueCapacity then
      some { w with task := .running upload (queue ++ [chunk]) bodyEnded }
    else none
  | _ => none

def outcome? (w : Writer) : Option (Except Fault Unit) :=
  match w.task with
  | .ended outcome => some outcome
  | _ => none

variable {σ : Type}

/-- The task after the upload has come to a stop. -/
def rest (upload : Upload) (queue : List ByteArray) (bodyEnded : Bool) : Task :=
  if upload.needsChunk then .running upload queue bodyEnded else .ended upload.outcome

/-- Runs an upload on the chunks of the queue, and on the end of the body once the queue is empty,
up to the next wait. -/
def drain (serve : Service σ) (upload : Upload) (bodyEnded : Bool) : List ByteArray → σ → Task × σ
  | [], s =>
    if bodyEnded && upload.needsChunk then
      let (upload, s) := (upload.feed none).settle serve s
      (rest upload [] true, s)
    else (rest upload [] bodyEnded, s)
  | chunk :: queue, s =>
    if upload.needsChunk then
      let (upload, s) := (upload.feed (some chunk)).settle serve s
      drain serve upload bodyEnded queue s
    else (rest upload (chunk :: queue) bodyEnded, s)

/-- One turn of the task: it looks whether it has been canceled and then goes on to its next wait
for a chunk, or to its end. -/
def poll (serve : Service σ) (w : Writer) (s : σ) : Writer × σ :=
  match w.task with
  | .running upload queue bodyEnded =>
    if w.canceled then
      let (upload, s) := upload.cancel.settle serve s
      ({ w with task := rest upload queue bodyEnded }, s)
    else
      let (task, s) := drain serve upload bodyEnded queue s
      ({ w with task }, s)
  | _ => (w, s)

/-- Several turns of the task. -/
def polls (serve : Service σ) : Nat → Writer → σ → Writer × σ
  | 0, w, s => (w, s)
  | n + 1, w, s =>
    let (w, s) := w.poll serve s
    polls serve n w s

/-- Queues a chunk of a running task, after a turn of the task if the queue is full. If the task
has ended, its outcome is reported; a write finds no task that ended well, as only `close` ends a
body. -/
def send (serve : Service σ) (w : Writer) (chunk : ByteArray) (s : σ) :
    (Except Error Nat × Writer) × σ :=
  match w.push? chunk with
  | some w => ((.ok chunk.size, w), s)
  | none =>
    let (w, s) := w.poll serve s
    match w.push? chunk with
    | some w => ((.ok chunk.size, w), s)
    | none =>
      match w.outcome? with
      | some (.error e) => ((.error (.ofFault e), w), s)
      | some (.ok ()) => ((.error (.ofFault (.invalidRequest .uploadFinished)), w), s)
      | none => ((.error (.ofFault .canceled), w), s)

/-- Writes a chunk and tells how many bytes were taken. Once the upload has failed every write
fails the same way. -/
def write (serve : Service σ) (w : Writer) (chunk : ByteArray) (s : σ) :
    (Except Error Nat × Writer) × σ :=
  match w.outcome? with
  | some (.error e) => ((.error (.ofFault e), w), s)
  | _ => if chunk.isEmpty then ((.ok 0, w), s) else send serve w.start chunk s

/-- Ends the body, lets the task run to its end and reports how it ended. -/
def close (serve : Service σ) (w : Writer) (s : σ) : Except Error Unit × σ :=
  let (w, s) := (w.start.endBody).poll serve s
  match w.outcome? with
  | some (.ok ()) => (.ok (), s)
  | some (.error e) => (.error (.ofFault e), s)
  | none => (.error (.ofFault .canceled), s)

/-- Drops the writer without closing it: the upload is given up. -/
def abandon (serve : Service σ) (w : Writer) (s : σ) : σ := (w.cancel.endBody.poll serve s).2

end Writer

end BlobStore
