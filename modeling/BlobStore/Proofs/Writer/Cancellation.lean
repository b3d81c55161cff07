import BlobStore.Proofs.Upload.Ending
import BlobStore.Proofs.Writer.Follows

/-!
# Schedules with cancellation

A writer may be canceled at any time, and its task takes notice of that at any time after, as long
as it has not stopped reading. Whatever is lasting for uploads is kept by all moves of a session, and
so is the agreement of what the writes have returned with the outcome of the task.
-/

namespace BlobStore.Writer

open Upload

variable {σ : Type} {serve : Service σ} {object : NewObject} {p : Nat}

namespace Session

/-- One move of the caller or of the task, of whoever cancels the writer, or of a task that takes
notice. -/
inductive Move (serve : Service σ) : Session σ → Session σ → Prop
  | step {x y : Session σ} : Step serve x y → Move serve x y
  | cancel {todo : List ByteArray} {written : List (ByteArray × Except Error Nat)}
      {caller : Caller} {w : Writer} {s : σ} :
      w.canceled = false →
      Move serve ⟨todo, written, caller, w, s⟩ ⟨todo, written, caller, w.cancel, s⟩
  | notice {todo : List ByteArray} {written : List (ByteArray × Except Error Nat)}
      {caller : Caller} {w : Writer} {s : σ} {upload : Upload} {queue : List ByteArray}
      {bodyEnded : Bool} :
      w.canceled = true → w.task = .running upload queue bodyEnded →
      upload.stage.isReading = true →
      Move serve ⟨todo, written, caller, w, s⟩
        ⟨todo, written, caller, { w with task := .running upload.cancel queue bodyEnded }, s⟩

def Moves (serve : Service σ) : Session σ → Session σ → Prop :=
  Relation.ReflTransGen (Move serve)

end Session

theorem outcome?_of_running {w : Writer} {upload : Upload} {queue : List ByteArray}
    {bodyEnded : Bool} (h : w.task = .running upload queue bodyEnded) : w.outcome? = none := by
  rw [outcome?, h]

theorem outcome?_start (w : Writer) : w.start.outcome? = w.outcome? := by
  obtain ⟨o, size, canceled, task⟩ := w
  cases task <;> rfl

theorem outcome?_endBody (w : Writer) : w.endBody.outcome? = w.outcome? := by
  obtain ⟨o, size, canceled, task⟩ := w
  cases task <;> rfl

theorem canceled_start (w : Writer) : w.start.canceled = w.canceled := by
  obtain ⟨o, size, canceled, task⟩ := w
  cases task <;> rfl

theorem canceled_endBody (w : Writer) : w.endBody.canceled = w.canceled := by
  obtain ⟨o, size, canceled, task⟩ := w
  cases task <;> rfl

theorem isListening_of_needsChunk {w : Writer} {upload : Upload} {queue : List ByteArray}
    {bodyEnded : Bool} (ht : w.task = .running upload queue bodyEnded)
    (hc : upload.needsChunk = true) : w.isListening = true := by
  obtain ⟨o, size, stage⟩ := upload
  rw [isListening, ht]
  rcases needsChunk_eq_true hc with ⟨held, rfl⟩ | ⟨id, sent, held, rfl⟩ <;> rfl

private theorem isListening_turn {w : Writer} {task : Task} {s t : σ}
    (h : Task.Turn serve w.task s task t) (hdeaf : w.isListening = false) :
    ({ w with task } : Writer).isListening = false := by
  obtain ⟨o, size, canceled, before⟩ := w
  dsimp only at h
  cases h with
  | @take upload chunk queue bodyEnded s hc | @finish upload s hc =>
    obtain ⟨_, _, stage⟩ := upload
    rcases needsChunk_eq_true hc with ⟨held, rfl⟩ | ⟨id, sent, held, rfl⟩ <;> cases hdeaf
  | @ask upload queue bodyEnded s r resume hd =>
    obtain ⟨_, _, stage⟩ := upload
    obtain ⟨next, hasks, rfl⟩ := asks_of_demand hd
    cases hasks with
    | aborting => rfl
    | _ => cases hdeaf
  | report => rfl

namespace Session

theorem Call.outcome?_eq {x y : Session σ} (h : Call x y) :
    y.writer.outcome? = x.writer.outcome? := by
  cases h with
  | fail | skip | refuse | tell | finish => rfl
  | send => exact outcome?_start _
  | close => exact (outcome?_endBody _).trans (outcome?_start _)
  | push _ hpush =>
    obtain ⟨upload, queue, bodyEnded, hrunning, _, rfl⟩ := push?_eq_some hpush
    rw [outcome?_of_running hrunning]
    rfl

theorem Move.outcome? {x y : Session σ} {outcome : Except Fault Unit} (h : Move serve x y)
    (ho : x.writer.outcome? = some outcome) : y.writer.outcome? = some outcome := by
  cases h with
  | step hs =>
    cases hs with
    | turn hturn =>
      obtain ⟨⟨upload, queue, bodyEnded, hrunning⟩, _⟩ := hturn.running
      rw [outcome?_of_running hrunning] at ho
      cases ho
    | call hc => exact hc.outcome?_eq.trans ho
  | cancel => exact ho
  | notice _ hrunning =>
    rw [outcome?_of_running hrunning] at ho
    cases ho

theorem Moves.outcome? {x y : Session σ} {outcome : Except Fault Unit} (h : Moves serve x y)
    (ho : x.writer.outcome? = some outcome) : y.writer.outcome? = some outcome := by
  induction h with
  | refl => exact ho
  | tail _ hmove ih => exact hmove.outcome? ih

/-- What is left of a session: its own moves, and that it can be canceled. -/
def credit (x : Session σ) : Nat := x.weight + if x.writer.canceled then 0 else 1

theorem Call.canceled_eq {x y : Session σ} (h : Call x y) :
    y.writer.canceled = x.writer.canceled := by
  cases h with
  | fail | skip | refuse | tell | finish => rfl
  | @send chunk todo written w => exact canceled_start w
  | @close written w => exact (canceled_endBody _).trans (canceled_start w)
  | push _ hpush =>
    obtain ⟨upload, queue, bodyEnded, _, _, rfl⟩ := push?_eq_some hpush
    rfl

theorem Step.canceled_eq {x y : Session σ} (h : Step serve x y) :
    y.writer.canceled = x.writer.canceled := by
  cases h with
  | turn => rfl
  | call hc => exact hc.canceled_eq

private theorem Move.credit_lt {x y : Session σ} (h : Move serve x y) : y.credit < x.credit := by
  cases h with
  | step hs =>
    have hlt := hs.weight_lt
    simp only [credit, hs.canceled_eq]
    omega
  | cancel hc =>
    simp only [credit, weight, Writer.cancel, hc, if_true, Bool.false_eq_true, if_false]
    omega
  | @notice todo written caller w s upload queue bodyEnded hc hrunning hr =>
    obtain ⟨object, p, stage⟩ := upload
    have hlt : (Upload.mk object p stage).cancel.stage.rank < stage.rank := rank_cancel_lt hr
    simp only [credit, weight, hrunning, Task.weight, hc, if_true]
    omega

/-- No schedule goes on for ever, with cancellation or without. -/
theorem not_endless_moves (serve : Service σ) (run : Nat → Session σ) :
    ¬∀ n, Move serve (run n) (run (n + 1)) := by
  intro h
  have hdown : ∀ n, (run n).credit + n ≤ (run 0).credit := by
    intro n
    induction n with
    | zero => exact Nat.le_refl _
    | succ n ih =>
      have hlt := (h n).credit_lt
      omega
  have hlast := hdown ((run 0).credit + 1)
  omega

end Session

/-- The bytes of the writes that have been granted. -/
def accepted (written : List (ByteArray × Except Error Nat)) : ByteArray :=
  Bytes.join ((written.filter (·.2.toBool)).map Prod.fst)

@[simp] theorem accepted_ok (written : List (ByteArray × Except Error Nat)) (chunk : ByteArray)
    (n : Nat) : accepted (written ++ [(chunk, .ok n)]) = accepted written ++ chunk := by
  simp [accepted, Except.toBool]

@[simp] theorem accepted_error (written : List (ByteArray × Except Error Nat)) (chunk : ByteArray)
    (e : Error) : accepted (written ++ [(chunk, .error e)]) = accepted written := by
  simp [accepted, Except.toBool]

/-- What a call is in the middle of agrees with the buffers left and with the writer. -/
def Caller.Agrees (todo : List ByteArray) (w : Writer) : Caller → Prop
  | .idle => True
  | .sending _ => w.task ≠ .idle
  | .refused _ => w.task ≠ .idle ∧ w.isListening = false
  | .closing => todo = [] ∧ w.task ≠ .idle
  | .closed result => todo = [] ∧
    ∃ outcome, w.outcome? = some outcome ∧ result = outcome.mapError .ofFault

namespace Session

/-- A session in which the task has got the bytes of the writes granted, and in which every write
refused has told the outcome of the task. -/
structure Orderly (object : NewObject) (p : Nat) (P : ByteArray → Bool → Stage → σ → Prop)
    (buffers : List ByteArray) (x : Session σ) : Prop where
  order : x.written.map Prod.fst ++ (x.caller.inHand ++ x.todo) = buffers
  object_eq : x.writer.object = object
  partSize_eq : x.writer.partSize = p
  task : x.writer.task.Follows object p P (accepted x.written) x.caller.hasClosed x.state
  results : ∀ w ∈ x.written, w.2 = .ok w.1.size ∨
    ∃ e, w.2 = .error (.ofFault e) ∧ x.writer.outcome? = some (.error e)
  sticky : x.written.Pairwise fun a b => a.2.toBool = false → b.2.toBool = false
  caller : x.caller.Agrees x.todo x.writer

variable {P : ByteArray → Bool → Stage → σ → Prop} {buffers : List ByteArray} {x y : Session σ}

theorem orderly_start {s : σ} (h : P ByteArray.empty false (.opening Held.start) s) :
    Orderly object p P buffers (start object p buffers s) where
  order := rfl
  object_eq := rfl
  partSize_eq := rfl
  task := ⟨rfl, rfl, h⟩
  results := by simp [start]
  sticky := .nil
  caller := trivial

theorem Orderly.granted (h : Orderly object p P buffers x)
    (ho : ∀ e, x.writer.outcome? ≠ some (.error e)) : ∀ w ∈ x.written, w.2 = .ok w.1.size := by
  intro w hw
  rcases h.results w hw with hok | ⟨e, _, he⟩
  · exact hok
  · exact absurd he (ho e)

private theorem sticky_append {written : List (ByteArray × Except Error Nat)}
    {last : ByteArray × Except Error Nat}
    (h : written.Pairwise fun a b => a.2.toBool = false → b.2.toBool = false)
    (hlast : last.2.toBool = false ∨ ∀ w ∈ written, w.2 = .ok w.1.size) :
    (written ++ [last]).Pairwise fun a b => a.2.toBool = false → b.2.toBool = false := by
  refine List.pairwise_append.mpr ⟨h, List.pairwise_singleton _ _, ?_⟩
  intro a ha b hb hrefused
  rw [List.mem_singleton.mp hb]
  rcases hlast with hl | hgranted
  · exact hl
  · rw [hgranted a ha] at hrefused
    cases hrefused

private theorem results_append {written : List (ByteArray × Except Error Nat)}
    {last : ByteArray × Except Error Nat} {found : Option (Except Fault Unit)}
    (h : ∀ w ∈ written, w.2 = .ok w.1.size ∨
      ∃ e, w.2 = .error (.ofFault e) ∧ found = some (.error e))
    (hlast : last.2 = .ok last.1.size ∨
      ∃ e, last.2 = .error (.ofFault e) ∧ found = some (.error e)) :
    ∀ w ∈ written ++ [last], w.2 = .ok w.1.size ∨
      ∃ e, w.2 = .error (.ofFault e) ∧ found = some (.error e) := by
  intro w hw
  rcases List.mem_append.mp hw with hw | hw
  · exact h w hw
  · rw [List.mem_singleton.mp hw]
    exact hlast

theorem Orderly.outcome?_of_open (h : Orderly object p P buffers x)
    (hknows : ∀ {read ended stage s}, P read ended stage s → stage.KnowsEnd ended)
    (hopen : x.caller.hasClosed = false) : x.writer.outcome? ≠ some (.ok ()) := by
  intro ho
  have htask := h.task
  rw [outcome?_eq_some ho, hopen] at htask
  obtain ⟨read, rest, ended, _, hend, hP⟩ := htask
  have hended : ended = true := hknows hP
  cases (hend hended).1

theorem Orderly.outcome?_of_closed (h : Orderly object p P buffers x) {result : Except Error Unit}
    (hclosed : x.caller = .closed result) :
    ∃ outcome, x.writer.outcome? = some outcome ∧ result = outcome.mapError .ofFault := by
  have hcaller := h.caller
  rw [hclosed] at hcaller
  exact hcaller.2

theorem Orderly.call (hknows : ∀ {read ended stage s}, P read ended stage s → stage.KnowsEnd ended)
    (h : Orderly object p P buffers x) (hc : Call x y) : Orderly object p P buffers y := by
  have hopen := h.outcome?_of_open hknows
  have hgranted := h.granted
  obtain ⟨horder, hobject, hpartSize, htask, hresults, hsticky, hcaller⟩ := h
  cases hc with
  | @fail chunk todo written w s e hout =>
    refine ⟨?_, hobject, hpartSize, ?_, results_append hresults (Or.inr ⟨e, rfl, hout⟩),
      sticky_append hsticky (Or.inl rfl), trivial⟩
    · rw [← horder]
      simp [Caller.inHand]
    · rw [accepted_error]
      exact htask
  | @skip chunk todo written w s hout he =>
    have hzero : chunk.size = 0 := by simpa [ByteArray.isEmpty] using he
    refine ⟨?_, hobject, hpartSize, ?_, results_append hresults (Or.inl (by rw [hzero])),
      sticky_append hsticky (Or.inr (hgranted hout)), trivial⟩
    · rw [← horder]
      simp [Caller.inHand]
    · rw [accepted_ok, ByteArray.size_eq_zero_iff.mp hzero, ByteArray.append_empty]
      exact htask
  | @send chunk todo written w s hout he =>
    obtain ⟨hn, htask'⟩ := follows_start hobject hpartSize htask
    refine ⟨horder, (start_frame w).1.trans hobject, (start_frame w).2.trans hpartSize, htask', ?_,
      hsticky, hn⟩
    rw [outcome?_start]
    exact hresults
  | @push chunk todo written w w' s hl hpush =>
    obtain ⟨upload, queue, bodyEnded, hrunning, _, hw'⟩ := push?_eq_some hpush
    have hall := hgranted fun e he => by rw [outcome?_of_running hrunning] at he; cases he
    refine ⟨?_, (push?_frame hpush).1.trans hobject, (push?_frame hpush).2.trans hpartSize, ?_, ?_,
      sticky_append hsticky (Or.inr hall), trivial⟩
    · rw [← horder]
      simp [Caller.inHand]
    · rw [accepted_ok]
      exact follows_push hpush htask
    · exact results_append (fun a ha => Or.inl (hall a ha)) (Or.inl rfl)
  | @refuse chunk todo written w s hdeaf =>
    exact ⟨horder, hobject, hpartSize, htask, hresults, hsticky, hcaller, hdeaf⟩
  | @tell chunk todo written w s outcome hout =>
    cases outcome with
    | ok => exact absurd hout (hopen rfl)
    | error e =>
      refine ⟨?_, hobject, hpartSize, ?_, results_append hresults (Or.inr ⟨e, rfl, hout⟩),
        sticky_append hsticky (Or.inl rfl), trivial⟩
      · rw [← horder]
        simp [Caller.inHand]
      · rw [refusal, accepted_error]
        exact htask
  | @close written w s =>
    obtain ⟨hn, htask'⟩ := follows_start hobject hpartSize htask
    obtain ⟨hn', htask''⟩ := follows_endBody hn htask'
    refine ⟨horder, ?_, ?_, htask'', ?_, hsticky, rfl, hn'⟩
    · rw [(endBody_frame _).1, (start_frame w).1, hobject]
    · rw [(endBody_frame _).2, (start_frame w).2, hpartSize]
    · rw [outcome?_endBody, outcome?_start]
      exact hresults
  | @finish todo written w s outcome hout =>
    exact ⟨horder, hobject, hpartSize, htask, hresults, hsticky, hcaller.1, outcome, hout, rfl⟩

/-- While the task runs, it may come to another stage as long as it is still followed. -/
private theorem Orderly.running (h : Orderly object p P buffers x) {upload : Upload}
    {queue : List ByteArray} {bodyEnded : Bool}
    (hrunning : x.writer.task = .running upload queue bodyEnded) {task : Task} {t : σ}
    (hn : task ≠ .idle)
    (htask : task.Follows object p P (accepted x.written) x.caller.hasClosed t)
    (hdeaf : x.writer.isListening = false → ({ x.writer with task } : Writer).isListening = false) :
    Orderly object p P buffers ⟨x.todo, x.written, x.caller, { x.writer with task }, t⟩ := by
  have hout := outcome?_of_running hrunning
  have hall := h.granted fun e he => by rw [hout] at he; cases he
  refine ⟨h.order, h.object_eq, h.partSize_eq, htask, fun w hw => Or.inl (hall w hw), h.sticky, ?_⟩
  have hcaller := h.caller
  cases hx : x.caller with
  | idle => exact trivial
  | sending chunk => exact hn
  | refused chunk =>
    rw [hx] at hcaller
    exact ⟨hn, hdeaf hcaller.2⟩
  | closing =>
    rw [hx] at hcaller
    exact ⟨hcaller.1, hn⟩
  | closed result =>
    rw [hx] at hcaller
    obtain ⟨_, outcome, ho, _⟩ := hcaller
    rw [hout] at ho
    cases ho

/-- Every move keeps a session orderly. -/
theorem Orderly.move (k : Lasting serve object p P)
    (hknows : ∀ {read ended stage s}, P read ended stage s → stage.KnowsEnd ended)
    (h : Orderly object p P buffers x) (hm : Move serve x y) : Orderly object p P buffers y := by
  cases hm with
  | step hs =>
    cases hs with
    | call hc => exact h.call hknows hc
    | turn hturn =>
      obtain ⟨⟨upload, queue, bodyEnded, hrunning⟩, hn⟩ := hturn.running
      exact h.running hrunning hn (hturn.follows k.toKept h.task) (isListening_turn hturn)
  | cancel hc => exact ⟨h.order, h.object_eq, h.partSize_eq, h.task, h.results, h.sticky, h.caller⟩
  | @notice todo written caller w s upload queue bodyEnded hc hrunning hr =>
    have htask := h.task
    dsimp only at htask
    rw [hrunning] at htask
    obtain ⟨hb, read, ended, stage, rfl, hgiven, hend, hP⟩ := htask
    refine h.running hrunning (fun hn => by cases hn) ?_ fun _ => isReading_cancel _ _ _
    exact ⟨hb, read, ended, _, cancel_eq _ _ _, hgiven, hend, k.canceled hr hP⟩

theorem Orderly.moves (k : Lasting serve object p P)
    (hknows : ∀ {read ended stage s}, P read ended stage s → stage.KnowsEnd ended)
    (h : Orderly object p P buffers x) (hm : Moves serve x y) : Orderly object p P buffers y := by
  induction hm with
  | refl => exact h
  | tail _ hmove ih => exact ih.move k hknows hmove

end Session

end BlobStore.Writer
