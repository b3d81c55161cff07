import BlobStore.Proofs.Upload.Atomicity
import BlobStore.Proofs.Writer.Cancellation

/-!
# Writers that are given up

A writer may be canceled from outside, and its caller may let go of it without having closed it. A
writer that is let go is canceled first, and the end of the body comes after that. A turn of the
task is one step here: it looks whether the writer has been canceled, and only then goes on to its
next wait. So whoever gives up a writer before it is closed can rely on it that nothing is stored.
-/

namespace BlobStore.Upload

variable {object : NewObject} {p : Nat}

/-- The stage of an upload into the memory `m` and what the memory has come to are as the account
of its requests tells. -/
def Traced (plan : Mishaps) (m : Memory) (object : NewObject) (read : ByteArray) (ended : Bool)
    (stage : Stage) (x : Noted Memory) : Prop :=
  stage.Tracked object read ended x.events ∧ Service.Trail Memory.serve plan m x.events x.state

theorem lasting_traced (plan : Mishaps) (m : Memory) (object : NewObject) (p : Nat) :
    Lasting (Memory.serve.noted plan) object p (Traced plan m object) :=
  (lasting_tracked (Service.events_noted Memory.serve plan) object p).and fun r _ h => h.noted r

end BlobStore.Upload

namespace BlobStore.Writer

open Upload

variable {σ : Type} {serve : Service σ} {object : NewObject} {p : Nat}

namespace Session

def cancel (x : Session σ) : Session σ := { x with writer := x.writer.cancel }

def endBody (x : Session σ) : Session σ := { x with writer := x.writer.endBody }

def poll (serve : Service σ) (x : Session σ) : Session σ :=
  { x with writer := (x.writer.poll serve x.state).1, state := (x.writer.poll serve x.state).2 }

end Session

/-- Whether the caller still has the writer. -/
inductive Hold where
  | kept
  /-- The writer has been canceled because nobody will close it. -/
  | letGo
  /-- The end of the body has followed. -/
  | dropped

/-- A session with what has become of its writer. -/
structure Custody (σ : Type) where
  session : Session σ
  hold : Hold

namespace Custody

def start (object : NewObject) (p : Nat) (buffers : List ByteArray) (s : σ) : Custody σ :=
  ⟨.start object p buffers s, .kept⟩

/-- The writer is canceled, from outside or because it is let go. -/
inductive Withdraw : Custody σ → Custody σ → Prop
  | cancel {x : Session σ} {hold : Hold} : Withdraw ⟨x, hold⟩ ⟨x.cancel, hold⟩
  | letGo {x : Session σ} : x.caller.hasClosed = false → Withdraw ⟨x, .kept⟩ ⟨x.cancel, .letGo⟩

private theorem Withdraw.session_eq {x y : Custody σ} (h : Withdraw x y) :
    y.session = x.session.cancel := by
  cases h <;> rfl

/-- One move of the caller, one turn of the task, or one step towards giving up the writer. -/
inductive Step (serve : Service σ) : Custody σ → Custody σ → Prop
  | call {x y : Session σ} : Session.Call x y → Step serve ⟨x, .kept⟩ ⟨y, .kept⟩
  | turn {x : Session σ} {hold : Hold} : Step serve ⟨x, hold⟩ ⟨x.poll serve, hold⟩
  | withdraw {x y : Custody σ} : Withdraw x y → Step serve x y
  | drop {x : Session σ} : Step serve ⟨x, .letGo⟩ ⟨x.endBody, .dropped⟩

def Steps (serve : Service σ) : Custody σ → Custody σ → Prop :=
  Relation.ReflTransGen (Step serve)

/-- What a writer reports that is given up in this state: the fault of its upload if that has failed
already. -/
def verdict (x : Custody σ) : Fault :=
  match x.session.writer.outcome? with
  | some (.error e) => e
  | _ => .canceled

end Custody

private theorem drain_open {P : ByteArray → Bool → Stage → σ → Prop} (k : Kept serve object p P)
    (queue : List ByteArray) {read : ByteArray} {stage : Stage} {s : σ} (h : P read false stage s)
    (hr : IsResting ⟨object, p, stage⟩) :
    ∃ last after left t,
      drain serve ⟨object, p, stage⟩ false queue s = (rest ⟨object, p, after⟩ left false, t) ∧
        P last false after t ∧ IsResting ⟨object, p, after⟩ := by
  induction queue generalizing read stage s with
  | nil => exact ⟨read, stage, [], s, rfl, h, hr⟩
  | cons chunk queue ih =>
    cases hc : (Upload.mk object p stage).needsChunk with
    | true =>
      obtain ⟨fed, hfeed, hfed⟩ := k.feed chunk h hc
      obtain ⟨next, t, hsettle, hnext, hrest⟩ := k.settle hfed
      obtain ⟨last, after, left, u, hdrain, hlast, hafter⟩ := ih hnext hrest
      refine ⟨last, after, left, u, ?_, hlast, hafter⟩
      rw [drain, if_pos hc, hfeed, hsettle]
      exact hdrain
    | false =>
      refine ⟨read, stage, chunk :: queue, s, ?_, h, hr⟩
      rw [drain, if_neg (by simp [hc])]

/-- A task of which nothing has been stored. Only that of a canceled writer has been told of the end
of the body. -/
def Task.Unstored (plan : Mishaps) (m : Memory) (object : NewObject) (p : Nat) (canceled : Bool) :
    Task → Noted Memory → Prop
  | .idle, x => x = ⟨m, []⟩
  | .running upload _ bodyEnded, x =>
    (bodyEnded = true → canceled = true) ∧
      ∃ read stage, upload = ⟨object, p, stage⟩ ∧ upload.needsChunk = true ∧
        Traced plan m object read false stage x
  | .ended outcome, x =>
    ∃ read why, outcome = .error why ∧ Traced plan m object read false (.finished outcome) x

variable {plan : Mishaps} {m : Memory} {w : Writer} {s : Noted Memory}

private theorem unstored_mono {task : Task} {canceled : Bool}
    (h : task.Unstored plan m object p canceled s) : task.Unstored plan m object p true s := by
  cases task with
  | idle | ended => exact h
  | running => exact ⟨fun _ => rfl, h.2⟩

private theorem unstored_start (ho : w.object = object) (hsize : w.partSize = p)
    (h : w.task.Unstored plan m object p w.canceled s) :
    w.start.task.Unstored plan m object p w.start.canceled s := by
  obtain ⟨_, _, canceled, task⟩ := w
  obtain rfl := ho
  obtain rfl := hsize
  cases task with
  | idle =>
    obtain rfl := h
    refine ⟨fun h => (by cases h), ByteArray.empty, _, rfl, rfl, ?_⟩
    exact ⟨tracked_start _, .start⟩
  | running | ended => exact h

theorem idle_of_endBody (h : w.endBody.task = .idle) : w.task = .idle := by
  obtain ⟨_, _, _, task⟩ := w
  cases task with
  | idle => rfl
  | running | ended => cases h

private theorem unstored_endBody (hc : w.canceled = true)
    (h : w.task.Unstored plan m object p w.canceled s) :
    w.endBody.task.Unstored plan m object p w.endBody.canceled s := by
  obtain ⟨_, _, canceled, task⟩ := w
  cases task with
  | idle | ended => exact h
  | running => exact ⟨fun _ => hc, h.2⟩

private theorem unstored_push {w' : Writer} {chunk : ByteArray} (hpush : w.push? chunk = some w')
    (h : w.task.Unstored plan m object p w.canceled s) :
    w'.task.Unstored plan m object p w'.canceled s := by
  obtain ⟨upload, queue, bodyEnded, hrunning, _, rfl⟩ := push?_eq_some hpush
  rw [hrunning] at h
  exact h

private theorem unstored_rest {canceled : Bool} {read : ByteArray} {stage : Stage}
    {queue : List ByteArray} (h : Traced plan m object read false stage s)
    (hr : IsResting ⟨object, p, stage⟩) :
    (rest ⟨object, p, stage⟩ queue false).Unstored plan m object p canceled s := by
  rcases hr with hc | ⟨outcome, rfl⟩
  · rw [rest, if_pos hc]
    exact ⟨fun h => (by cases h), read, stage, rfl, hc, h⟩
  · have hend : (Stage.finished outcome).KnowsEnd false := h.1.1
    cases outcome with
    | ok => cases hend
    | error why => exact ⟨read, why, rfl, h⟩

/-- A turn looks whether the writer has been canceled before it takes notice of the end of the
body. -/
theorem unstored_poll (h : w.task.Unstored plan m object p w.canceled s) :
    let next := w.poll (Memory.serve.noted plan) s
    next.1.task.Unstored plan m object p w.canceled next.2 := by
  have k := lasting_traced plan m object p
  obtain ⟨_, _, canceled, task⟩ := w
  cases task with
  | idle | ended => exact h
  | running upload queue bodyEnded =>
    obtain ⟨hended, read, stage, rfl, hc, htraced⟩ := h
    cases canceled with
    | true =>
      obtain ⟨t, hsettle, hlast⟩ := k.settle_cancel htraced hc
      simp only [Writer.poll, if_true, hsettle]
      exact ⟨read, .canceled, rfl, hlast⟩
    | false =>
      obtain rfl : bodyEnded = false := by
        cases bodyEnded with
        | false => rfl
        | true => cases hended rfl
      obtain ⟨last, after, left, t, hdrain, hlast, hrest⟩ :=
        drain_open k.toKept queue htraced (Or.inl hc)
      simp only [Writer.poll, Bool.false_eq_true, if_false, hdrain]
      exact unstored_rest hlast hrest

private theorem poll_frame (serve : Service σ) (w : Writer) (s : σ) :
    (w.poll serve s).1.object = w.object ∧ (w.poll serve s).1.partSize = w.partSize ∧
      (w.poll serve s).1.canceled = w.canceled := by
  obtain ⟨_, _, canceled, task⟩ := w
  cases task with
  | idle | ended => exact ⟨rfl, rfl, rfl⟩
  | running => cases canceled <;> exact ⟨rfl, rfl, rfl⟩

private theorem poll_of_idle (hidle : w.task = .idle) (serve : Service σ) (s : σ) :
    w.poll serve s = (w, s) := by
  rw [Writer.poll, hidle]

theorem poll_of_ended {outcome : Except Fault Unit} (serve : Service σ)
    (ho : w.outcome? = some outcome) (s : σ) : w.poll serve s = (w, s) := by
  rw [Writer.poll, Session.outcome?_eq_some ho]

private theorem poll_canceled (hc : w.canceled = true) (ho : w.outcome? = none)
    (hn : w.task ≠ .idle) (h : w.task.Unstored plan m object p w.canceled s) :
    (w.poll (Memory.serve.noted plan) s).1.outcome? = some (.error .canceled) := by
  obtain ⟨_, _, canceled, task⟩ := w
  obtain rfl : canceled = true := hc
  cases task with
  | idle => exact absurd rfl hn
  | ended => cases ho
  | running upload queue bodyEnded =>
    obtain ⟨_, read, stage, rfl, hneeds, htraced⟩ := h
    obtain ⟨t, hsettle, _⟩ := (lasting_traced plan m object p).settle_cancel htraced hneeds
    simp only [Writer.poll, if_true, hsettle]
    rfl

namespace Custody

/-- A writer of which nothing has been stored. -/
structure Withheld (plan : Mishaps) (m : Memory) (object : NewObject) (p : Nat)
    (x : Custody (Noted Memory)) : Prop where
  object_eq : x.session.writer.object = object
  partSize_eq : x.session.writer.partSize = p
  task : x.session.writer.task.Unstored plan m object p x.session.writer.canceled x.session.state
  letGo : x.hold = .letGo → x.session.writer.canceled = true

variable {buffers : List ByteArray} {x y z : Custody (Noted Memory)}

private theorem withheld_start : Withheld plan m object p (start object p buffers ⟨m, []⟩) where
  object_eq := rfl
  partSize_eq := rfl
  task := rfl
  letGo := fun h => by cases h

private theorem Withheld.withdraw (h : Withheld plan m object p x) (hw : Withdraw x y) :
    Withheld plan m object p y := by
  obtain ⟨a, hold⟩ := y
  obtain rfl : a = x.session.cancel := hw.session_eq
  exact ⟨h.object_eq, h.partSize_eq, unstored_mono h.task, fun _ => rfl⟩

theorem Withheld.call {a b : Session (Noted Memory)} (h : Withheld plan m object p ⟨a, .kept⟩)
    (hc : Session.Call a b) (hopen : b.caller.hasClosed = false ∨ a.writer.canceled = true) :
    Withheld plan m object p ⟨b, .kept⟩ := by
  obtain ⟨hobject, hpartSize, htask, _⟩ := h
  cases hc with
  | fail | skip | refuse | tell | finish =>
    exact ⟨hobject, hpartSize, htask, fun h => by cases h⟩
  | @send chunk todo written w s =>
    exact ⟨(Session.start_frame w).1.trans hobject, (Session.start_frame w).2.trans hpartSize,
      unstored_start hobject hpartSize htask, fun h => by cases h⟩
  | push _ hpush =>
    exact ⟨(Session.push?_frame hpush).1.trans hobject,
      (Session.push?_frame hpush).2.trans hpartSize, unstored_push hpush htask, fun h => by cases h⟩
  | @close written w s =>
    have hcanceled : w.start.canceled = true := by
      rcases hopen with hb | ha
      · cases hb
      · rw [canceled_start]
        exact ha
    refine ⟨?_, ?_, unstored_endBody hcanceled (unstored_start hobject hpartSize htask),
      fun h => by cases h⟩
    · rw [(Session.endBody_frame _).1, (Session.start_frame w).1, hobject]
    · rw [(Session.endBody_frame _).2, (Session.start_frame w).2, hpartSize]

/-- As long as the writer has not been closed, or once it has been canceled, nothing is stored. -/
theorem Withheld.step (h : Withheld plan m object p x) (hs : Step (Memory.serve.noted plan) x y)
    (hopen : y.session.caller.hasClosed = false ∨ x.session.writer.canceled = true) :
    Withheld plan m object p y := by
  cases hs with
  | call hc => exact h.call hc hopen
  | @turn a hold =>
    obtain ⟨hobject, hpartSize, hcanceled⟩ := poll_frame (Memory.serve.noted plan) a.writer a.state
    refine ⟨hobject.trans h.object_eq, hpartSize.trans h.partSize_eq, ?_, ?_⟩
    · simp only [Session.poll, hcanceled]
      exact unstored_poll h.task
    · simp only [Session.poll, hcanceled]
      exact h.letGo
  | withdraw hw => exact h.withdraw hw
  | @drop a =>
    refine ⟨?_, ?_, unstored_endBody (h.letGo rfl) h.task, fun h => by cases h⟩
    · exact (Session.endBody_frame a.writer).1.trans h.object_eq
    · exact (Session.endBody_frame a.writer).2.trans h.partSize_eq

private theorem Step.hasClosed_eq {x y : Custody σ} (h : Step serve x y)
    (hopen : y.session.caller.hasClosed = false) : x.session.caller.hasClosed = false := by
  cases h with
  | call hc =>
    cases hc with
    | close | finish => cases hopen
    | _ => rfl
  | turn | drop => exact hopen
  | withdraw hw => cases hw <;> exact hopen

private theorem withheld_of_open
    (hx : Steps (Memory.serve.noted plan) (start object p buffers ⟨m, []⟩) x)
    (hopen : x.session.caller.hasClosed = false) : Withheld plan m object p x := by
  induction hx with
  | refl => exact withheld_start
  | tail _ hstep ih => exact (ih (hstep.hasClosed_eq hopen)).step hstep (Or.inl hopen)

/-- A writer that has been given up before it was closed. -/
structure Doomed (plan : Mishaps) (m : Memory) (object : NewObject) (p : Nat) (fault : Fault)
    (x : Custody (Noted Memory)) : Prop extends Withheld plan m object p x where
  canceled : x.session.writer.canceled = true
  failed : ∀ outcome, x.session.writer.outcome? = some outcome → outcome = .error fault
  unfailed : x.session.writer.outcome? = none → fault = .canceled
  closing : x.session.caller = .closing → x.session.writer.task ≠ .idle
  closed : ∀ result, x.session.caller = .closed result → result = .error (.ofFault fault)

private theorem Withheld.doomed (h : Withheld plan m object p x)
    (hopen : x.session.caller.hasClosed = false) (hw : Withdraw x y) :
    Doomed plan m object p x.verdict y := by
  have hy := h.withdraw hw
  obtain ⟨a, hold⟩ := y
  obtain rfl : a = x.session.cancel := hw.session_eq
  refine { hy with canceled := rfl, failed := ?_, unfailed := ?_, closing := ?_, closed := ?_ }
  · intro outcome ho
    have ho' : x.session.writer.outcome? = some outcome := ho
    have htask := h.task
    rw [Session.outcome?_eq_some ho'] at htask
    obtain ⟨_, why, rfl, _⟩ := htask
    rw [verdict, ho']
  · intro ho
    have ho' : x.session.writer.outcome? = none := ho
    rw [verdict, ho']
  · intro hclosing
    have hclosing' : x.session.caller = .closing := hclosing
    rw [hclosing'] at hopen
    cases hopen
  · intro result hclosed
    have hclosed' : x.session.caller = .closed result := hclosed
    rw [hclosed'] at hopen
    cases hopen

variable {fault : Fault}

/-- With its next turn the task reports the fault, whether it has ended before or not. -/
theorem Doomed.poll (h : Doomed plan m object p fault x) (hn : x.session.writer.task ≠ .idle) :
    (x.session.poll (Memory.serve.noted plan)).writer.outcome? = some (.error fault) := by
  cases ho : x.session.writer.outcome? with
  | none =>
    rw [h.unfailed ho]
    exact poll_canceled h.canceled ho hn h.task
  | some outcome =>
    simp only [Session.poll, poll_of_ended _ ho, ho, h.failed outcome ho]

theorem Doomed.call {a b : Session (Noted Memory)} (h : Doomed plan m object p fault ⟨a, .kept⟩)
    (hc : Session.Call a b) : Doomed plan m object p fault ⟨b, .kept⟩ := by
  have hout := hc.outcome?_eq
  refine { h.toWithheld.call hc (Or.inr h.canceled) with
    canceled := hc.canceled_eq.trans h.canceled
    failed := fun outcome ho => h.failed outcome (hout.symm.trans ho)
    unfailed := fun ho => h.unfailed (hout.symm.trans ho)
    closing := ?_
    closed := ?_ }
  · intro hclosing
    cases hc with
    | @close written w =>
      obtain ⟨_, _, _, task⟩ := w
      cases task <;> exact fun hidle => by cases hidle
    | _ => cases hclosing
  · intro result hclosed
    cases hc with
    | finish ho =>
      obtain rfl := h.failed _ ho
      cases hclosed
      rfl
    | _ => cases hclosed

theorem Doomed.step (h : Doomed plan m object p fault x)
    (hs : Step (Memory.serve.noted plan) x y) : Doomed plan m object p fault y := by
  have hy := h.toWithheld.step hs (Or.inr h.canceled)
  cases hs with
  | call hc => exact h.call hc
  | @turn a hold =>
    by_cases hidle : a.writer.task = .idle
    · have hsame : a.poll (Memory.serve.noted plan) = a := by
        simp only [Session.poll, poll_of_idle hidle]
      rw [hsame]
      exact h
    · have hout := h.poll hidle
      refine { hy with
        canceled := (poll_frame _ a.writer a.state).2.2.trans h.canceled
        failed := fun outcome ho => Option.some.inj (ho.symm.trans hout)
        unfailed := fun ho => ?_
        closing := fun _ hidle' => ?_
        closed := h.closed }
      · cases ho.symm.trans hout
      · rw [Writer.outcome?, hidle'] at hout
        cases hout
  | withdraw hw =>
    obtain ⟨a, hold⟩ := y
    obtain rfl : a = x.session.cancel := hw.session_eq
    exact { hy with
      canceled := rfl
      failed := h.failed
      unfailed := h.unfailed
      closing := h.closing
      closed := h.closed }
  | @drop a =>
    have hout := outcome?_endBody a.writer
    refine { hy with
      canceled := (canceled_endBody a.writer).trans h.canceled
      failed := fun outcome ho => h.failed outcome (hout.symm.trans ho)
      unfailed := fun ho => h.unfailed (hout.symm.trans ho)
      closing := fun hclosing hidle => h.closing hclosing (idle_of_endBody hidle)
      closed := h.closed }

/-- What has been asked for the writer before its task has ended could be given up. -/
theorem Withheld.waiting (h : Withheld plan m object p x)
    (ho : x.session.writer.outcome? = none) :
    (∃ id?, GivenUp object false id? x.session.state.events) ∧
      Service.Trail Memory.serve plan m x.session.state.events x.session.state.state := by
  have htask := h.task
  cases ht : x.session.writer.task with
  | idle =>
    rw [ht] at htask
    have hstate : x.session.state = ⟨m, []⟩ := htask
    rw [hstate]
    exact ⟨⟨none, .unstarted⟩, .start⟩
  | running upload queue bodyEnded =>
    rw [ht] at htask
    obtain ⟨_, read, stage, rfl, hneeds, ⟨_, hacc⟩, htrail⟩ := htask
    exact ⟨accounted_waiting hacc hneeds, htrail⟩
  | ended outcome =>
    rw [outcome?, ht] at ho
    cases ho

theorem Withheld.ended (h : Withheld plan m object p x) {outcome : Except Fault Unit}
    (ho : x.session.writer.outcome? = some outcome) :
    Abandoned object false x.session.state.events ∧
      Service.Trail Memory.serve plan m x.session.state.events x.session.state.state := by
  have htask := h.task
  rw [Session.outcome?_eq_some ho] at htask
  obtain ⟨_, why, rfl, ⟨_, hacc⟩, htrail⟩ := htask
  exact ⟨hacc, htrail⟩

theorem Withheld.objects (h : Withheld plan m object p x) (hm : m.Issued) :
    x.session.state.state.objects = m.objects ∧
      ∀ e ∈ x.session.state.events, e.request.isStoring = false := by
  cases ho : x.session.writer.outcome? with
  | none =>
    obtain ⟨⟨id?, hgiven⟩, htrail⟩ := h.waiting ho
    exact ⟨objects_of_givenUp hm hgiven htrail, hgiven.unstored⟩
  | some outcome =>
    obtain ⟨habandoned, htrail⟩ := h.ended ho
    exact ⟨(trail_abandoned hm habandoned htrail).1, habandoned.unstored⟩

/-- What there is to say of a writer on the memory `m` after it has been given up, if closing it
reports this fault. -/
structure Withdrawn (serve : Service (Noted Memory)) (m : Memory) (fault : Fault)
    (x : Custody (Noted Memory)) : Prop where
  objects : x.session.state.state.objects = m.objects
  unasked : ∀ e ∈ x.session.state.events, e.request.isStoring = false
  closed : ∀ result, x.session.caller = .closed result → result = .error (.ofFault fault)
  /-- Nothing has been asked of the memory for a writer to which nothing has been written. -/
  unstarted : x.session.writer.task = .idle → x.session.state = ⟨m, []⟩
  unaborted : x.session.writer.outcome? = none →
    x.session.state.events.filterMap Event.abortedId? = []
  /-- What has got a name is aborted once under that name. -/
  aborted : ∀ outcome, x.session.writer.outcome? = some outcome →
    ∃ id? : Option String, x.session.state.events.filterMap Event.createdId? = id?.toList ∧
      x.session.state.events.filterMap Event.abortedId? = id?.toList
  uploads : ∀ outcome, x.session.writer.outcome? = some outcome →
    (∀ e ∈ x.session.state.events, e.abortedId?.isSome → e.isGranted) →
    x.session.state.state.uploads = m.uploads
  /-- A call of `close` that waits is answered after the next turn of the task. -/
  closing : x.session.caller = .closing → x.session.writer.task ≠ .idle
  ends : x.session.writer.task ≠ .idle →
    (x.session.poll serve).writer.outcome? = some (.error fault)

private theorem Doomed.withdrawn (h : Doomed plan m object p fault x) (hm : m.Issued) :
    Withdrawn (Memory.serve.noted plan) m fault x where
  objects := (h.objects hm).1
  unasked := (h.objects hm).2
  closed := h.closed
  unstarted := by
    intro hidle
    have htask := h.task
    rw [hidle] at htask
    exact htask
  unaborted := by
    intro ho
    obtain ⟨⟨id?, hgiven⟩, _⟩ := h.waiting ho
    exact hgiven.aborted
  aborted := fun _ ho => (h.ended ho).1.aborted_eq
  uploads := by
    intro outcome ho
    obtain ⟨habandoned, htrail⟩ := h.ended ho
    exact (trail_abandoned hm habandoned htrail).2
  closing := h.closing
  ends := h.poll

/-- A writer that is canceled before it has been closed, or that is let go without having been
closed, stores nothing: it has changed no object before that and does not change one after it, nor
does it ask for anything to be stored. Closing it reports that it was canceled, or the fault that
its upload had met before. What was started in parts is aborted once, and unless the abort comes to
grief nothing of it is left after the end of the task. -/
theorem withdraw_stores_nothing (plan : Mishaps) {m : Memory} (hm : m.Issued) {object : NewObject}
    {p : Nat} {buffers : List ByteArray} {x : Custody (Noted Memory)}
    (hx : Steps (Memory.serve.noted plan) (start object p buffers ⟨m, []⟩) x)
    (hopen : x.session.caller.hasClosed = false) :
    x.session.state.state.objects = m.objects ∧
      ∀ y z, Withdraw x y → Steps (Memory.serve.noted plan) y z →
        Withdrawn (Memory.serve.noted plan) m x.verdict z := by
  have hwithheld : Withheld plan m object p x := withheld_of_open hx hopen
  refine ⟨(hwithheld.objects hm).1, ?_⟩
  intro y z hw hz
  have hdoomed : Doomed plan m object p x.verdict z := by
    induction hz with
    | refl => exact hwithheld.doomed hopen hw
    | tail _ hstep ih => exact ih.step hstep
  exact hdoomed.withdrawn hm

/-- A session in which the first of two parts has been taken. -/
def halfway : Session (Noted Memory) :=
  Session.poll (Memory.serve.noted .none) <|
    ⟨[], [(⟨#[1, 2]⟩, .ok 2)], .idle,
      ⟨⟨⟨"bucket", "key"⟩, .none, none⟩, 1, false,
        .running (.new ⟨⟨"bucket", "key"⟩, .none, none⟩ 1) [⟨#[1, 2]⟩] false⟩,
      ⟨Memory.empty, []⟩⟩

theorem withdraw_stores_nothing_halfway :
    halfway.state.state.uploads.get? "upload-1" = some ⟨"key", .none, [(1, ⟨#[1]⟩)]⟩ ∧
      ∃ z, Steps (Memory.serve.noted .none) ⟨halfway.cancel, .kept⟩ z ∧
        z.session.caller = .closed (.error (.ofFault .canceled)) ∧
        z.session.state.events.filterMap Event.abortedId? = ["upload-1"] ∧
        Withdrawn (Memory.serve.noted .none) Memory.empty .canceled z := by
  have hx : Steps (Memory.serve.noted .none)
      (start ⟨⟨"bucket", "key"⟩, .none, none⟩ 1 [⟨#[1, 2]⟩] ⟨Memory.empty, []⟩) ⟨halfway, .kept⟩ :=
    .head (.call (.send (fun e h => by cases h) rfl)) <|
    .head (.call (.push rfl rfl)) <|
    .single .turn
  have hended : (Session.poll (Memory.serve.noted .none)
      ⟨[], halfway.written, .closing, halfway.cancel.writer.start.endBody,
        halfway.state⟩).writer.outcome? = some (.error .canceled) := by decide +kernel
  have hz : Steps (Memory.serve.noted .none) ⟨halfway.cancel, .kept⟩ _ :=
    .head (.call .close) <|
    .head .turn <|
    .single (.call (.finish hended))
  have hverdict : verdict ⟨halfway, .kept⟩ = .canceled := by decide +kernel
  have hwithdrawn := (withdraw_stores_nothing .none .empty hx rfl).2 _ _ .cancel hz
  rw [hverdict] at hwithdrawn
  exact ⟨by decide +kernel, _, hz, rfl, by decide +kernel, hwithdrawn⟩

end Custody

end BlobStore.Writer
