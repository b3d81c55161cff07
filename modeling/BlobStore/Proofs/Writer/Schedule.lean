import BlobStore.Proofs.Upload.Moves
import BlobStore.Writer
import Mathlib.Logic.Relation

/-!
# Schedules of a writer

The caller of a writer and the task that runs its upload move in any order. A move of the caller
goes up to the next point where it may be kept waiting; a move of the task is one chunk, one request
or the report of how the upload ended. Every schedule is finite, whatever the service does.
-/

namespace BlobStore.Writer

open Upload

variable {σ : Type}

/-- The upload still reads what is put into the queue. -/
def isListening (w : Writer) : Bool :=
  match w.task with
  | .running upload _ _ => upload.stage.isReading
  | _ => false

/-- One move of a task that has not been canceled. -/
inductive Task.Turn (serve : Service σ) : Task → σ → Task → σ → Prop
  | take {upload : Upload} {chunk : ByteArray} {queue : List ByteArray} {bodyEnded : Bool} {s : σ} :
      upload.needsChunk = true →
      Turn serve (.running upload (chunk :: queue) bodyEnded) s
        (.running (upload.feed (some chunk)) queue bodyEnded) s
  | finish {upload : Upload} {s : σ} :
      upload.needsChunk = true →
      Turn serve (.running upload [] true) s (.running (upload.feed none) [] true) s
  | ask {upload : Upload} {queue : List ByteArray} {bodyEnded : Bool} {s : σ} {r : Request}
      {resume : Answer r → Upload} :
      upload.demand = .answer r resume →
      Turn serve (.running upload queue bodyEnded) s
        (.running (resume (serve r s).1) queue bodyEnded) (serve r s).2
  | report {upload : Upload} {queue : List ByteArray} {bodyEnded : Bool} {s : σ}
      {outcome : Except Fault Unit} :
      upload.demand = .nothing outcome →
      Turn serve (.running upload queue bodyEnded) s (.ended outcome) s

/-- What the caller is in the middle of. -/
inductive Caller where
  | idle
  /-- A write waits for room in the queue. -/
  | sending (chunk : ByteArray)
  /-- A write has found nobody listening and waits to be told why. -/
  | refused (chunk : ByteArray)
  | closing
  | closed (result : Except Error Unit)

/-- The buffer of a write that has not returned. -/
def Caller.inHand : Caller → List ByteArray
  | .sending chunk => [chunk]
  | .refused chunk => [chunk]
  | _ => []

/-- The writer has been closed, whether or not that has returned. -/
def Caller.hasClosed : Caller → Bool
  | .closing => true
  | .closed _ => true
  | _ => false

/-- A writer in use: the buffers still to be written, those that have been with what the writes
returned, the caller, the writer and the service. -/
structure Session (σ : Type) where
  todo : List ByteArray
  written : List (ByteArray × Except Error Nat)
  caller : Caller
  writer : Writer
  state : σ

/-- What a write reports that has found nobody listening. -/
def refusal : Except Fault Unit → Error
  | .error e => .ofFault e
  | .ok () => .ofFault (.invalidRequest .uploadFinished)

namespace Session

def start (object : NewObject) (p : Nat) (buffers : List ByteArray) (s : σ) : Session σ :=
  ⟨buffers, [], .idle, .new object p, s⟩

/-- One move of the caller, who writes all buffers and then closes the writer. -/
inductive Call : Session σ → Session σ → Prop
  | fail {chunk : ByteArray} {todo : List ByteArray} {written : List (ByteArray × Except Error Nat)}
      {w : Writer} {s : σ} {e : Fault} :
      w.outcome? = some (.error e) →
      Call ⟨chunk :: todo, written, .idle, w, s⟩
        ⟨todo, written ++ [(chunk, .error (.ofFault e))], .idle, w, s⟩
  | skip {chunk : ByteArray} {todo : List ByteArray} {written : List (ByteArray × Except Error Nat)}
      {w : Writer} {s : σ} :
      (∀ e, w.outcome? ≠ some (.error e)) → chunk.isEmpty = true →
      Call ⟨chunk :: todo, written, .idle, w, s⟩ ⟨todo, written ++ [(chunk, .ok 0)], .idle, w, s⟩
  | send {chunk : ByteArray} {todo : List ByteArray} {written : List (ByteArray × Except Error Nat)}
      {w : Writer} {s : σ} :
      (∀ e, w.outcome? ≠ some (.error e)) → chunk.isEmpty = false →
      Call ⟨chunk :: todo, written, .idle, w, s⟩ ⟨todo, written, .sending chunk, w.start, s⟩
  | push {chunk : ByteArray} {todo : List ByteArray} {written : List (ByteArray × Except Error Nat)}
      {w w' : Writer} {s : σ} :
      w.isListening = true → w.push? chunk = some w' →
      Call ⟨todo, written, .sending chunk, w, s⟩
        ⟨todo, written ++ [(chunk, .ok chunk.size)], .idle, w', s⟩
  | refuse {chunk : ByteArray} {todo : List ByteArray}
      {written : List (ByteArray × Except Error Nat)} {w : Writer} {s : σ} :
      w.isListening = false →
      Call ⟨todo, written, .sending chunk, w, s⟩ ⟨todo, written, .refused chunk, w, s⟩
  | tell {chunk : ByteArray} {todo : List ByteArray} {written : List (ByteArray × Except Error Nat)}
      {w : Writer} {s : σ} {outcome : Except Fault Unit} :
      w.outcome? = some outcome →
      Call ⟨todo, written, .refused chunk, w, s⟩
        ⟨todo, written ++ [(chunk, .error (refusal outcome))], .idle, w, s⟩
  | close {written : List (ByteArray × Except Error Nat)} {w : Writer} {s : σ} :
      Call ⟨[], written, .idle, w, s⟩ ⟨[], written, .closing, w.start.endBody, s⟩
  | finish {todo : List ByteArray} {written : List (ByteArray × Except Error Nat)} {w : Writer}
      {s : σ} {outcome : Except Fault Unit} :
      w.outcome? = some outcome →
      Call ⟨todo, written, .closing, w, s⟩
        ⟨todo, written, .closed (outcome.mapError .ofFault), w, s⟩

/-- One move of the caller or of the task. -/
inductive Step (serve : Service σ) : Session σ → Session σ → Prop
  | call {x y : Session σ} : Call x y → Step serve x y
  | turn {todo : List ByteArray} {written : List (ByteArray × Except Error Nat)} {caller : Caller}
      {w : Writer} {s t : σ} {task : Task} :
      Task.Turn serve w.task s task t →
      Step serve ⟨todo, written, caller, w, s⟩ ⟨todo, written, caller, { w with task }, t⟩

def Steps (serve : Service σ) : Session σ → Session σ → Prop :=
  Relation.ReflTransGen (Step serve)

end Session

def Task.weight : Task → Nat
  | .idle => (Stage.opening Held.start).rank + 2
  | .running upload queue _ => upload.stage.rank + queue.length + 1
  | .ended _ => 0

theorem Task.Turn.weight_lt {serve : Service σ} {a b : Task} {s t : σ} (h : Turn serve a s b t) :
    b.weight < a.weight := by
  cases h with
  | @take upload chunk queue =>
    have hr := rank_feed_some upload chunk
    simp only [weight, List.length_cons]
    omega
  | finish hc =>
    have hr := rank_feed_none hc
    simp only [weight]
    omega
  | ask hd =>
    have hr := rank_lt_of_demand hd (serve _ s).1
    simp only [weight]
    omega
  | report hd => exact Nat.succ_pos _

theorem Task.Turn.running {serve : Service σ} {a b : Task} {s t : σ} (h : Turn serve a s b t) :
    (∃ upload queue bodyEnded, a = .running upload queue bodyEnded) ∧ b ≠ .idle := by
  cases h <;> exact ⟨⟨_, _, _, rfl⟩, fun h => by cases h⟩

/-- A running task waits for nothing but a chunk that has not been written yet. -/
theorem Task.turn_or_waits (serve : Service σ) (upload : Upload) (queue : List ByteArray)
    (bodyEnded : Bool) (s : σ) :
    (∃ b t, Turn serve (.running upload queue bodyEnded) s b t) ∨
      (upload.needsChunk = true ∧ queue = [] ∧ bodyEnded = false) := by
  obtain ⟨object, p, stage⟩ := upload
  rcases asks_or_rests object p stage with ⟨r, next, ha⟩ | hc | ⟨outcome, ho⟩
  · exact Or.inl ⟨_, _, .ask ha.demand⟩
  · cases queue with
    | cons chunk queue => exact Or.inl ⟨_, _, .take hc⟩
    | nil =>
      cases bodyEnded with
      | true => exact Or.inl ⟨_, _, .finish hc⟩
      | false => exact Or.inr ⟨hc, rfl, rfl⟩
  · obtain rfl := ho
    exact Or.inl ⟨_, _, .report rfl⟩

private theorem weight_start (w : Writer) : w.start.task.weight ≤ w.task.weight := by
  obtain ⟨object, p, canceled, task⟩ := w
  cases task with
  | idle =>
    simp only [start, Task.weight, Upload.new, List.length_nil]
    omega
  | running | ended => exact Nat.le_refl _

private theorem weight_endBody (w : Writer) : w.endBody.task.weight = w.task.weight := by
  obtain ⟨object, p, canceled, task⟩ := w
  cases task <;> rfl

theorem push?_eq_some {w w' : Writer} {chunk : ByteArray} (h : w.push? chunk = some w') :
    ∃ upload queue bodyEnded, w.task = .running upload queue bodyEnded ∧
      queue.length < queueCapacity ∧
      w' = { w with task := .running upload (queue ++ [chunk]) bodyEnded } := by
  unfold push? at h
  split at h
  · rename_i upload queue bodyEnded ht
    split at h
    · rename_i hroom
      exact ⟨upload, queue, bodyEnded, ht, hroom, (Option.some.inj h).symm⟩
    · cases h
  · cases h

private theorem weight_push? {w w' : Writer} {chunk : ByteArray} (h : w.push? chunk = some w') :
    w'.task.weight = w.task.weight + 1 := by
  obtain ⟨upload, queue, bodyEnded, ht, _, rfl⟩ := push?_eq_some h
  simp only [ht, Task.weight, List.length_append, List.length_singleton]
  omega

namespace Session

theorem outcome?_eq_some {w : Writer} {outcome : Except Fault Unit}
    (h : w.outcome? = some outcome) : w.task = .ended outcome := by
  unfold outcome? at h
  split at h
  · rename_i ht
    cases h
    exact ht
  · cases h

theorem push?_frame {w w' : Writer} {chunk : ByteArray} (h : w.push? chunk = some w') :
    w'.object = w.object ∧ w'.partSize = w.partSize := by
  obtain ⟨_, _, _, _, _, rfl⟩ := push?_eq_some h
  exact ⟨rfl, rfl⟩

theorem start_frame (w : Writer) :
    w.start.object = w.object ∧ w.start.partSize = w.partSize := by
  obtain ⟨_, _, _, task⟩ := w
  cases task <;> exact ⟨rfl, rfl⟩

theorem endBody_frame (w : Writer) :
    w.endBody.object = w.object ∧ w.endBody.partSize = w.partSize := by
  obtain ⟨_, _, _, task⟩ := w
  cases task <;> exact ⟨rfl, rfl⟩

theorem call_of_idle (todo : List ByteArray) (written : List (ByteArray × Except Error Nat))
    (w : Writer) (s : σ) : ∃ y, Call ⟨todo, written, .idle, w, s⟩ y := by
  cases todo with
  | nil => exact ⟨_, .close⟩
  | cons chunk todo =>
    by_cases hout : ∀ e, w.outcome? ≠ some (.error e)
    · cases he : chunk.isEmpty with
      | true => exact ⟨_, .skip hout he⟩
      | false => exact ⟨_, .send hout he⟩
    · obtain ⟨e, hout⟩ := Classical.not_forall.mp hout
      exact ⟨_, .fail (Classical.not_not.mp hout)⟩

end Session

def Caller.weight : Caller → Nat
  | .sending _ => 5
  | .refused _ => 4
  | .idle => 3
  | .closing => 2
  | .closed _ => 1

namespace Session

def weight (x : Session σ) : Nat :=
  3 * x.todo.length + x.caller.weight + x.writer.task.weight

theorem Step.weight_lt {serve : Service σ} {x y : Session σ} (h : Step serve x y) :
    y.weight < x.weight := by
  cases h with
  | turn ht =>
    have hlt := ht.weight_lt
    simp only [weight]
    omega
  | call hc =>
    cases hc with
    | fail | skip | refuse | tell | finish =>
      simp only [weight, Caller.weight, List.length_cons]
      omega
    | @send chunk todo written w =>
      have hle := weight_start w
      simp only [weight, Caller.weight, List.length_cons]
      omega
    | push _ hpush =>
      have heq := weight_push? hpush
      simp only [weight, Caller.weight]
      omega
    | @close written w =>
      have hle := weight_start w
      have heq := weight_endBody w.start
      simp only [weight, Caller.weight]
      omega

/-- No schedule goes on for ever. -/
theorem not_endless (serve : Service σ) (run : Nat → Session σ) :
    ¬∀ n, Step serve (run n) (run (n + 1)) := by
  intro h
  have hdown : ∀ n, (run n).weight + n ≤ (run 0).weight := by
    intro n
    induction n with
    | zero => exact Nat.le_refl _
    | succ n ih =>
      have hlt := (h n).weight_lt
      omega
  have hlast := hdown ((run 0).weight + 1)
  omega

end Session

end BlobStore.Writer
