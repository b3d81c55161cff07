import BlobStore.Proofs.Upload.Success
import BlobStore.Proofs.Writer.Follows

/-!
# What is written is what is stored

A writer on the memory, which refuses nothing of a body that fits, has its whole body stored at the
end of every schedule. Before it is closed no object changes.
-/

namespace BlobStore.Writer

open Upload

/-- No call is refused, and the writer is closed when all has been written. -/
def Caller.Fits (todo : List ByteArray) (task : Task) : Caller → Prop
  | .idle => True
  | .sending _ => task ≠ .idle
  | .refused _ => False
  | .closing => todo = [] ∧ task ≠ .idle
  | .closed result => todo = [] ∧ result = .ok () ∧ task = .ended (.ok ())

namespace Session

/-- A session on the memory `m` in which nothing has gone wrong. -/
structure Sound (m : Memory) (object : NewObject) (p : Nat) (buffers : List ByteArray)
    (x : Session (Noted Memory)) : Prop where
  order : x.written.map Prod.fst ++ (x.caller.inHand ++ x.todo) = buffers
  lengths : ∀ w ∈ x.written, w.2 = .ok w.1.size
  object_eq : x.writer.object = object
  partSize_eq : x.writer.partSize = p
  task : x.writer.task.Follows object p (Recorded .none m object p)
    (Bytes.join (x.written.map Prod.fst)) x.caller.hasClosed x.state
  caller : x.caller.Fits x.todo x.writer.task

variable {m : Memory} {object : NewObject} {p : Nat} {buffers : List ByteArray}
  {x y : Session (Noted Memory)}

theorem sound_start : Sound m object p buffers (start object p buffers ⟨m, []⟩) where
  order := rfl
  lengths := by simp [start]
  object_eq := rfl
  partSize_eq := rfl
  task := ⟨rfl, rfl, recorded_start .none m object p⟩
  caller := trivial

/-- What has been read is a part of the whole body, so there are parts enough. -/
theorem Sound.size_le (h : Sound m object p buffers x)
    (hsize : (Bytes.join buffers).size ≤ maxParts * p) {read rest : ByteArray}
    (hread : read ++ rest = Bytes.join (x.written.map Prod.fst)) : read.size ≤ maxParts * p := by
  have hwhole : (read ++ rest ++ Bytes.join (x.caller.inHand ++ x.todo)).size ≤ maxParts * p := by
    rw [hread, ← Bytes.join_append, h.order]
    exact hsize
  rw [ByteArray.size_append, ByteArray.size_append] at hwhole
  omega

theorem Sound.of_ended (h : Sound m object p buffers x)
    (hsize : (Bytes.join buffers).size ≤ maxParts * p) {outcome : Except Fault Unit}
    (ht : x.writer.task = .ended outcome) :
    outcome = .ok () ∧ x.caller.hasClosed = true ∧
      Recorded .none m object p (Bytes.join (x.written.map Prod.fst)) true (.finished (.ok ()))
        x.state := by
  have htask := h.task
  rw [ht] at htask
  obtain ⟨read, rest, ended, hgiven, hend, hlog, htrail⟩ := htask
  cases outcome with
  | error e => exact (not_failed hlog (h.size_le hsize hgiven) htrail).elim
  | ok =>
    obtain rfl : ended = true := hlog.1
    obtain ⟨hover, rfl⟩ := hend rfl
    rw [Bytes.join_nil, ByteArray.append_empty] at hgiven
    exact ⟨rfl, hover, hgiven ▸ ⟨hlog, htrail⟩⟩

theorem Sound.listening (h : Sound m object p buffers x)
    (hsize : (Bytes.join buffers).size ≤ maxParts * p) (hn : x.writer.task ≠ .idle)
    (hopen : x.caller.hasClosed = false) : x.writer.isListening = true := by
  cases ht : x.writer.task with
  | idle => exact absurd ht hn
  | ended outcome =>
    have hclosed := (h.of_ended hsize ht).2.1
    rw [hopen] at hclosed
    cases hclosed
  | running upload queue bodyEnded =>
    have htask := h.task
    rw [ht] at htask
    obtain ⟨_, read, ended, stage, rfl, hgiven, hend, hlog, htrail⟩ := htask
    rw [isListening, ht]
    rcases isReading_or_finished hlog (h.size_le hsize hgiven) htrail with hr | rfl
    · exact hr
    · have hclosed := (hend hlog.1).1
      rw [hopen] at hclosed
      cases hclosed

private theorem lengths_append {written : List (ByteArray × Except Error Nat)} {chunk : ByteArray}
    {result : Except Error Nat} (h : ∀ w ∈ written, w.2 = .ok w.1.size)
    (hr : result = .ok chunk.size) : ∀ w ∈ written ++ [(chunk, result)], w.2 = .ok w.1.size := by
  intro w hw
  rcases List.mem_append.mp hw with hw | hw
  · exact h w hw
  · rw [List.mem_singleton.mp hw]
    exact hr

theorem Sound.call (hsize : (Bytes.join buffers).size ≤ maxParts * p)
    (h : Sound m object p buffers x) (hc : Call x y) : Sound m object p buffers y := by
  cases hc with
  | fail hout => cases (h.of_ended hsize (outcome?_eq_some hout)).1
  | @skip chunk todo written w s hout he =>
    have hzero : chunk.size = 0 := by simpa [ByteArray.isEmpty] using he
    obtain ⟨horder, hlengths, hobject, hpartSize, htask, _⟩ := h
    refine ⟨?_, lengths_append hlengths (by rw [hzero]), hobject, hpartSize, ?_, trivial⟩
    · rw [← horder]
      simp [Caller.inHand]
    · have hjoin : Bytes.join ((written ++ [(chunk, Except.ok 0)]).map Prod.fst) =
          Bytes.join (written.map Prod.fst) := by
        rw [List.map_append, Bytes.join_append, ByteArray.size_eq_zero_iff.mp hzero]
        exact ByteArray.append_empty
      dsimp only
      rw [hjoin]
      exact htask
  | @send chunk todo written w s hout he =>
    obtain ⟨horder, hlengths, hobject, hpartSize, htask, _⟩ := h
    obtain ⟨hn, htask'⟩ := follows_start hobject hpartSize htask
    exact ⟨horder, hlengths, (start_frame w).1.trans hobject, (start_frame w).2.trans hpartSize,
      htask', hn⟩
  | @push chunk todo written w w' s hl hpush =>
    obtain ⟨horder, hlengths, hobject, hpartSize, htask, _⟩ := h
    refine ⟨?_, lengths_append hlengths rfl, (push?_frame hpush).1.trans hobject,
      (push?_frame hpush).2.trans hpartSize, ?_, trivial⟩
    · rw [← horder]
      simp [Caller.inHand]
    · have hjoin : Bytes.join ((written ++ [(chunk, Except.ok chunk.size)]).map Prod.fst) =
          Bytes.join (written.map Prod.fst) ++ chunk := by
        rw [List.map_append, Bytes.join_append]
        simp
      dsimp only
      rw [hjoin]
      exact follows_push hpush htask
  | refuse hdeaf =>
    rw [h.listening hsize h.caller rfl] at hdeaf
    cases hdeaf
  | tell => exact h.caller.elim
  | @close written w s =>
    obtain ⟨horder, hlengths, hobject, hpartSize, htask, _⟩ := h
    obtain ⟨hn, htask'⟩ := follows_start hobject hpartSize htask
    obtain ⟨hn', htask''⟩ := follows_endBody hn htask'
    refine ⟨horder, hlengths, ?_, ?_, htask'', rfl, hn'⟩
    · rw [(endBody_frame _).1, (start_frame w).1, hobject]
    · rw [(endBody_frame _).2, (start_frame w).2, hpartSize]
  | @finish todo written w s outcome hout =>
    have ht := outcome?_eq_some hout
    obtain rfl := (h.of_ended hsize ht).1
    exact ⟨h.order, h.lengths, h.object_eq, h.partSize_eq, h.task, h.caller.1, rfl, ht⟩

theorem Sound.step (hp : 0 < p) (hsize : (Bytes.join buffers).size ≤ maxParts * p)
    (h : Sound m object p buffers x) (hs : Step (Memory.serve.noted .none) x y) :
    Sound m object p buffers y := by
  cases hs with
  | call hc => exact h.call hsize hc
  | @turn todo written caller w s t task hturn =>
    obtain ⟨horder, hlengths, hobject, hpartSize, htask, hcaller⟩ := h
    refine ⟨horder, hlengths, hobject, hpartSize, hturn.follows (kept_recorded .none m object hp) htask, ?_⟩
    obtain ⟨⟨_, _, _, hrunning⟩, hn⟩ := hturn.running
    cases caller with
    | idle => exact trivial
    | sending => exact hn
    | refused => exact hcaller
    | closing => exact ⟨hcaller.1, hn⟩
    | closed result =>
      have ht : w.task = .ended (.ok ()) := hcaller.2.2
      rw [hrunning] at ht
      cases ht

theorem Sound.steps (hp : 0 < p) (hsize : (Bytes.join buffers).size ≤ maxParts * p)
    (h : Sound m object p buffers x) (hs : Steps (Memory.serve.noted .none) x y) :
    Sound m object p buffers y := by
  induction hs with
  | refl => exact h
  | tail _ hstep ih => exact ih.step hp hsize hstep

/-- Somebody can move until the writer is closed. -/
theorem Sound.progress (hsize : (Bytes.join buffers).size ≤ maxParts * p)
    (h : Sound m object p buffers x) (hopen : ∀ result, x.caller ≠ .closed result) :
    ∃ y, Step (Memory.serve.noted .none) x y := by
  obtain ⟨todo, written, caller, w, s⟩ := x
  cases caller with
  | closed result => exact absurd rfl (hopen result)
  | refused => exact h.caller.elim
  | idle =>
    obtain ⟨y, hc⟩ := call_of_idle todo written w s
    exact ⟨y, .call hc⟩
  | sending chunk =>
    have hl := h.listening hsize h.caller rfl
    obtain ⟨o, size, canceled, task⟩ := w
    cases task with
    | idle => exact absurd rfl h.caller
    | ended outcome => cases hl
    | running upload queue bodyEnded =>
      by_cases hroom : queue.length < queueCapacity
      · exact ⟨_, .call (.push hl (if_pos hroom))⟩
      · rcases Task.turn_or_waits (Memory.serve.noted .none) upload queue bodyEnded s with
          ⟨b, t, hturn⟩ | ⟨-, rfl, -⟩
        · exact ⟨_, .turn hturn⟩
        · exact absurd (by decide) hroom
  | closing =>
    obtain ⟨o, size, canceled, task⟩ := w
    cases task with
    | idle => exact absurd rfl h.caller.2
    | ended outcome => exact ⟨_, .call (.finish rfl)⟩
    | running upload queue bodyEnded =>
      obtain ⟨hover, _⟩ := h.task
      rcases Task.turn_or_waits (Memory.serve.noted .none) upload queue bodyEnded s with
        ⟨b, t, hturn⟩ | ⟨-, -, rfl⟩
      · exact ⟨_, .turn hturn⟩
      · cases hover

theorem Sound.objects (h : Sound m object p buffers x) (hm : m.Issued)
    (hsize : (Bytes.join buffers).size ≤ maxParts * p) (hopen : x.caller.hasClosed = false) :
    x.state.state.objects = m.objects := by
  cases ht : x.writer.task with
  | idle =>
    have htask := h.task
    rw [ht] at htask
    obtain ⟨_, _, hlog, htrail⟩ := htask
    exact objects_of_logged hm hlog htrail (by simp)
  | ended outcome =>
    have hclosed := (h.of_ended hsize ht).2.1
    rw [hopen] at hclosed
    cases hclosed
  | running upload queue bodyEnded =>
    have htask := h.task
    rw [ht] at htask
    obtain ⟨_, read, ended, stage, rfl, _, hend, hlog, htrail⟩ := htask
    refine objects_of_logged hm hlog htrail ?_
    rintro rfl
    have hclosed := (hend hlog.1).1
    rw [hopen] at hclosed
    cases hclosed

/-- The buffers have been written and make up the object; no upload is left over. -/
structure Delivered (m : Memory) (object : NewObject) (buffers : List ByteArray)
    (x : Session (Noted Memory)) : Prop where
  written : x.written.map Prod.fst = buffers
  stored : ∃ o : StoredObject, o.data = Bytes.join buffers ∧ o.headers = object.headers ∧
    x.state.state.objects = m.objects.insert object.address.key o
  uploads : x.state.state.uploads = m.uploads

private theorem Sound.delivered (h : Sound m object p buffers x) (hm : m.Issued)
    (hsize : (Bytes.join buffers).size ≤ maxParts * p) {result : Except Error Unit}
    (hclosed : x.caller = .closed result) : result = .ok () ∧ Delivered m object buffers x := by
  have hcaller := h.caller
  have horder := h.order
  rw [hclosed] at hcaller horder
  obtain ⟨htodo, rfl, ht⟩ := hcaller
  have hwritten : x.written.map Prod.fst = buffers := by
    rw [← horder, htodo]
    simp [Caller.inHand]
  obtain ⟨-, -, hlog, htrail⟩ := h.of_ended hsize ht
  obtain ⟨o, hdata, hheaders, hobjects, huploads⟩ := trail_stored hm hlog.2 htrail
  exact ⟨rfl, hwritten, ⟨o, hwritten ▸ hdata, hheaders, hobjects⟩, huploads⟩

/-- However a writer and its task take turns, every write returns the length of its buffer, no
object changes before the writer is closed, and closing it returns well with the buffers stored as
one object. No schedule is stuck before that, and none goes on for ever. -/
theorem schedule_delivers {m : Memory} (hm : m.Issued) (object : NewObject) {p : Nat} (hp : 0 < p)
    {buffers : List ByteArray} (hsize : (Bytes.join buffers).size ≤ maxParts * p) :
    (∀ x, Steps (Memory.serve.noted .none) (start object p buffers ⟨m, []⟩) x →
      (∀ w ∈ x.written, w.2 = .ok w.1.size) ∧
      (x.caller.hasClosed = false → x.state.state.objects = m.objects) ∧
      (∀ result, x.caller = .closed result → result = .ok () ∧ Delivered m object buffers x) ∧
      ((∀ result, x.caller ≠ .closed result) → ∃ y, Step (Memory.serve.noted .none) x y)) ∧
    ∀ run : Nat → Session (Noted Memory), run 0 = start object p buffers ⟨m, []⟩ →
      ¬∀ n, Step (Memory.serve.noted .none) (run n) (run (n + 1)) := by
  refine ⟨?_, fun run _ => not_endless _ run⟩
  intro x hx
  have hsound : Sound m object p buffers x := by
    induction hx with
    | refl => exact sound_start
    | tail _ hstep ih => exact ih.step hp hsize hstep
  exact ⟨hsound.lengths, hsound.objects hm hsize, fun _ => hsound.delivered hm hsize,
    hsound.progress hsize⟩

theorem schedule_delivers_split :
    (Bytes.join [⟨#[1]⟩, ⟨#[]⟩, ⟨#[2, 3, 4]⟩]).size = 4 ∧
      ∀ x, Steps (Memory.serve.noted .none)
        (start ⟨⟨"bucket", "key"⟩, .none, none⟩ 2 [⟨#[1]⟩, ⟨#[]⟩, ⟨#[2, 3, 4]⟩] ⟨Memory.empty, []⟩) x →
        ∀ result, x.caller = .closed result → result = .ok () ∧
          Delivered Memory.empty ⟨⟨"bucket", "key"⟩, .none, none⟩ [⟨#[1]⟩, ⟨#[]⟩, ⟨#[2, 3, 4]⟩] x :=
  ⟨by decide, fun x hx =>
    ((schedule_delivers .empty ⟨⟨"bucket", "key"⟩, .none, none⟩ Nat.two_pos (by decide)).1 x hx).2.2.1⟩

end Session

end BlobStore.Writer
