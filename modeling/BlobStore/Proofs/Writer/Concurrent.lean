import BlobStore.Proofs.Memory.Shared
import BlobStore.Proofs.Writer.Cancellation

/-!
# Writers side by side

Any number of writers have one memory in common. Each makes its own moves, and those of different
writers follow each other in any order. A writer that is let go is canceled and its caller makes no
more moves, as its task does not get to see the end of the body. Each writer stays orderly, since
nothing that others do is on its record, and the memory stays as the records of all of them tell.
-/

namespace BlobStore.Writer

open Upload

variable {σ : Type} {object : NewObject} {p : Nat} {P : ByteArray → Bool → Stage → σ → Prop}

private theorem follows_mono {given : ByteArray} {closing : Bool} {s t : σ}
    (hP : ∀ read ended stage, P read ended stage s → P read ended stage t) {task : Task}
    (h : task.Follows object p P given closing s) : task.Follows object p P given closing t := by
  cases task with
  | idle => exact ⟨h.1, h.2.1, hP _ _ _ h.2.2⟩
  | running upload queue bodyEnded =>
    obtain ⟨hb, read, ended, stage, hu, hgiven, hend, hs⟩ := h
    exact ⟨hb, read, ended, stage, hu, hgiven, hend, hP _ _ _ hs⟩
  | ended outcome =>
    obtain ⟨read, left, ended, hgiven, hend, hs⟩ := h
    exact ⟨read, left, ended, hgiven, hend, hP _ _ _ hs⟩

namespace Session

variable {buffers : List ByteArray}

/-- The session with another state of the service. -/
def withState {τ : Type} (x : Session σ) (t : τ) : Session τ :=
  ⟨x.todo, x.written, x.caller, x.writer, t⟩

private theorem Orderly.withState {x : Session σ} {t : σ} (h : Orderly object p P buffers x)
    (hP : ∀ read ended stage, P read ended stage x.state → P read ended stage t) :
    Orderly object p P buffers (x.withState t) :=
  ⟨h.order, h.object_eq, h.partSize_eq, follows_mono hP h.task, h.results, h.sticky, h.caller⟩

theorem Orderly.read {x : Session σ} (h : Orderly object p P buffers x) {upload : Upload}
    {queue : List ByteArray} {bodyEnded : Bool}
    (ht : x.writer.task = .running upload queue bodyEnded) :
    ∃ read ended stage, upload = ⟨object, p, stage⟩ ∧ P read ended stage x.state ∧
      (ended = true → read = Bytes.join buffers) := by
  have hgranted := h.granted fun e he => by rw [outcome?_of_running ht] at he; cases he
  have htask := h.task
  rw [ht] at htask
  obtain ⟨_, read, ended, stage, hu, hgiven, hend, hs⟩ := htask
  refine ⟨read, ended, stage, hu, hs, ?_⟩
  intro hended
  obtain ⟨hclosed, rfl⟩ := hend hended
  have hwritten : x.written.map Prod.fst = buffers := by
    have horder := h.order
    have hcaller := h.caller
    cases hx : x.caller with
    | closing | closed =>
      rw [hx] at horder hcaller
      rw [hcaller.1] at horder
      simpa [Caller.inHand] using horder
    | _ =>
      rw [hx] at hclosed
      cases hclosed
  have hall : x.written.filter (·.2.toBool) = x.written := by
    rw [List.filter_eq_self]
    intro w hw
    rw [hgranted w hw]
    rfl
  rw [Bytes.join_nil, ByteArray.append_empty] at hgiven
  rw [hgiven, accepted, hall, hwritten]

theorem Move.state_eq {serve : Service σ} {x y : Session σ} (h : Move serve x y) :
    y.state = x.state ∨ ∃ upload queue bodyEnded r resume,
      x.writer.task = .running upload queue bodyEnded ∧
        upload.demand = Demand.answer r resume ∧ y.state = (serve r x.state).2 := by
  cases h with
  | cancel | notice => exact Or.inl rfl
  | step hs =>
    cases hs with
    | call hc =>
      refine Or.inl ?_
      cases hc <;> rfl
    | @turn todo written caller w s t task hturn =>
      obtain ⟨o, size, canceled, before⟩ := w
      dsimp only at hturn ⊢
      cases hturn with
      | take | finish | report => exact Or.inl rfl
      | ask hd => exact Or.inr ⟨_, _, _, _, _, rfl, hd, rfl⟩

end Session

/-- Writers at work and the memory that they have in common. -/
structure House (ι : Type) where
  sessions : ι → Session Unit
  common : Common ι

namespace House

variable {ι : Type}

def start (jobs : ι → Job) (m : Memory) : House ι :=
  ⟨fun i => .start (jobs i).object (jobs i).partSize (jobs i).buffers (), ⟨m, []⟩⟩

/-- The session of one of the writers. -/
def view (x : House ι) (i : ι) : Session (Common ι) := (x.sessions i).withState x.common

variable [DecidableEq ι]

/-- One of the writers has got to the session `s`. -/
def put (x : House ι) (i : ι) (s : Session (Common ι)) : House ι :=
  ⟨Function.update x.sessions i (s.withState ()), s.state⟩

/-- One move of one of the writers. -/
def MoveBy (plan : Hazards ι) (i : ι) (x y : House ι) : Prop :=
  ∃ s, Session.Move (Common.serveAs plan i) (x.view i) s ∧ y = x.put i s

/-- Moves of any of the writers. -/
def Moves (plan : Hazards ι) : House ι → House ι → Prop :=
  Relation.ReflTransGen fun x y => ∃ i, MoveBy plan i x y

private theorem view_put (x : House ι) (i : ι) (s : Session (Common ι)) :
    (x.put i s).view i = s := by
  simp only [view, put, Function.update_self]
  rfl

private theorem view_put_of_ne {i j : ι} (h : j ≠ i) (x : House ι) (s : Session (Common ι)) :
    (x.put i s).view j = (x.view j).withState s.state := by
  simp only [view, put, Function.update_of_ne h]
  rfl

/-- What the memory has been asked for a writer accounts for what its task has read. -/
def AtWork (job : Job) (i : ι) (s : Session (Common ι)) : Prop :=
  s.Orderly job.object job.partSize
    (fun read ended stage c => stage.Tracked job.object read ended (c.own i)) job.buffers

private theorem lasting_own (plan : Hazards ι) (i : ι) (object : NewObject) (p : Nat) :
    Lasting (Common.serveAs plan i) object p
      fun read ended stage c => stage.Tracked object read ended (c.own i) :=
  lasting_tracked (Common.own_serveAs plan i) object p

/-- Each writer does its own job, and the memory is as the ledger tells. -/
structure Apart (plan : Hazards ι) (m : Memory) (jobs : ι → Job) (x : House ι) : Prop where
  atWork : ∀ i, AtWork (jobs i) i (x.view i)
  ledger : Ledger plan m jobs x.common

variable {plan : Hazards ι} {m : Memory} {jobs : ι → Job} {x y : House ι} {i : ι}

private theorem apart_start : Apart plan m jobs (start jobs m) where
  atWork := fun i => Session.orderly_start (tracked_start (jobs i).object)
  ledger := .start

private theorem own_of_move {s t : Session (Common ι)}
    (h : Session.Move (Common.serveAs plan i) s t) {j : ι} (hj : j ≠ i) :
    t.state.own j = s.state.own j := by
  rcases h.state_eq with hs | ⟨_, _, _, r, _, _, _, hs⟩
  · rw [hs]
  · rw [hs]
    exact Common.own_serveAs_of_ne hj plan r s.state

private theorem ledger_of_move (hm : m.Issued) {s t : Session (Common ι)}
    (h : Session.Move (Common.serveAs plan i) s t) (hwork : AtWork (jobs i) i s)
    (hledger : Ledger plan m jobs s.state) : Ledger plan m jobs t.state := by
  rcases h.state_eq with hs | ⟨upload, queue, bodyEnded, r, resume, hrunning, hd, hs⟩
  · rw [hs]
    exact hledger
  · obtain ⟨read, ended, stage, rfl, htracked, hread⟩ := Session.Orderly.read hwork hrunning
    obtain ⟨next, hasks, _⟩ := asks_of_demand hd
    rw [hs]
    exact hledger.serve hm hasks htracked hread

theorem Apart.move (hm : m.Issued) (h : Apart plan m jobs x) (hmove : MoveBy plan i x y) :
    Apart plan m jobs y := by
  obtain ⟨s, hs, rfl⟩ := hmove
  refine ⟨?_, ledger_of_move hm hs (h.atWork i) h.ledger⟩
  intro j
  by_cases hj : j = i
  · subst hj
    rw [view_put]
    exact Session.Orderly.move (lasting_own plan j _ _) (fun hP => hP.1) (h.atWork j) hs
  · rw [view_put_of_ne hj]
    refine Session.Orderly.withState (h.atWork j) ?_
    intro read ended stage htracked
    rw [own_of_move hs hj]
    exact htracked

theorem Apart.moves (hm : m.Issued) (hx : Moves plan (start jobs m) x) : Apart plan m jobs x := by
  induction hx with
  | refl => exact apart_start
  | tail _ hmove ih =>
    obtain ⟨i, hmove⟩ := hmove
    exact ih.move hm hmove

/-- A task that has ended well has stored its body, and any other nothing. -/
theorem AtWork.stored {job : Job} {s : Session (Common ι)} (h : AtWork job i s)
    {outcome : Except Fault Unit} (ho : s.writer.outcome? = some outcome) :
    (s.state.own i).filterMap Event.storedKey? =
      if outcome.toBool then [job.object.address.key] else [] := by
  have htask := h.task
  rw [Session.outcome?_eq_some ho] at htask
  obtain ⟨read, left, ended, _, _, _, hacc⟩ := htask
  cases outcome with
  | ok => exact StoredAs.stored hacc
  | error why => exact Abandoned.stored hacc

/-- What there is to say of writers side by side on a memory that was `m` to begin with. -/
structure Unmixed (plan : Hazards ι) (m : Memory) (jobs : ι → Job) (x : House ι) : Prop where
  /-- Under each key there is what was there before, or the whole body of the one writer that was
  the last to store anything there. -/
  objects : x.common.LastStored m jobs
  /-- A writer that has been closed well has stored once. -/
  closed : ∀ i, (x.sessions i).caller = .closed (.ok ()) →
    (x.common.own i).filterMap Event.storedKey? = [(jobs i).object.address.key]
  /-- One that has failed has not stored anything. -/
  failed : ∀ i e, (x.sessions i).caller = .closed (.error e) ∨
      (∃ w ∈ (x.sessions i).written, w.2 = .error e) →
    (x.common.own i).filterMap Event.storedKey? = []
  /-- The memory itself refuses nothing, so that no writer is told of a missing upload or part. -/
  granted : ∀ past i e, past ++ [(i, e)] <+: x.common.log →
    (plan i past e.request).bind (·.answer? e.request) = none → e.isGranted = true
  /-- Whatever a writer does next, its abort included, leaves alone all unfinished uploads but its
  own. -/
  apart : ∀ i y, MoveBy plan i x y → ∀ id u, x.common.memory.uploads.get? id = some u →
    (∀ v, unfinished? (x.common.own i) ≠ some (id, v)) → y.common.memory.uploads.get? id = some u
  /-- No two writers own the same upload. -/
  owner : ∀ i j id u v, unfinished? (x.common.own i) = some (id, u) →
    unfinished? (x.common.own j) = some (id, v) → i = j

private theorem Apart.unmixed (hm : m.Issued) (h : Apart plan m jobs x) :
    Unmixed plan m jobs x where
  objects := h.ledger.objects
  closed := by
    intro i hclosed
    obtain ⟨outcome, hout, hresult⟩ := Session.Orderly.outcome?_of_closed (h.atWork i) hclosed
    cases outcome with
    | ok => exact (h.atWork i).stored hout
    | error why => cases hresult
  failed := by
    intro i e hfailed
    have hout : ∃ why, (x.view i).writer.outcome? = some (.error why) := by
      rcases hfailed with hclosed | ⟨w, hw, he⟩
      · obtain ⟨outcome, hout, hresult⟩ := Session.Orderly.outcome?_of_closed (h.atWork i) hclosed
        cases outcome with
        | ok => cases hresult
        | error why => exact ⟨why, hout⟩
      · rcases (h.atWork i).results w hw with hok | ⟨why, _, hout⟩
        · rw [he] at hok
          cases hok
        · exact ⟨why, hout⟩
    obtain ⟨why, hout⟩ := hout
    exact (h.atWork i).stored hout
  granted := h.ledger.granted
  apart := by
    rintro i y hmove id u hid hnot
    have hy := h.move hm hmove
    obtain ⟨s, hs, rfl⟩ := hmove
    exact h.ledger.untouched hy.ledger (fun j hj => own_of_move hs hj) hid hnot
  owner := by
    intro i j id u v hi hj
    exact h.ledger.single i j id (created_of_unfinished? hi) (created_of_unfinished? hj)

/-- Whatever the writers do and whichever of their requests come to grief, their uploads do not
mix. -/
theorem writers_unmixed (plan : Hazards ι) {m : Memory} (hm : m.Issued) (jobs : ι → Job)
    {x : House ι} (hx : Moves plan (start jobs m) x) : Unmixed plan m jobs x :=
  (Apart.moves hm hx).unmixed hm

/-- Two writers with one key, of which one stores in parts. -/
def pair : Bool → Job
  | false => ⟨⟨⟨"bucket", "key"⟩, .none, none⟩, 1, [⟨#[1]⟩]⟩
  | true => ⟨⟨⟨"bucket", "key"⟩, .none, none⟩, 1, [⟨#[2, 3]⟩]⟩

/-- One writer stores while the upload of the other is under way, which is then canceled. -/
theorem writers_unmixed_pair :
    ∃ x, Moves (fun _ _ _ => none) (start pair Memory.empty) x ∧
      (x.sessions false).caller = .closed (.ok ()) ∧
      (x.sessions true).caller = .closed (.error (.ofFault .canceled)) ∧
      x.common.storer? "key" = some false ∧
      (x.common.memory.objects.get? "key").map (·.data) = some ⟨#[1]⟩ ∧
      x.common.log.filterMap (fun e => e.2.abortedId?) = ["upload-1"] ∧
      Unmixed (fun _ _ _ => none) Memory.empty pair x := by
  have hx : Moves (fun _ _ _ => none) (start pair Memory.empty) _ :=
    .head ⟨true, _, .step (.call (.send (fun e h => by cases h) rfl)), rfl⟩ <|
    .head ⟨true, _, .step (.call (.push rfl rfl)), rfl⟩ <|
    .head ⟨true, _, .step (.turn (.take rfl)), rfl⟩ <|
    .head ⟨true, _, .step (.turn (.ask rfl)), rfl⟩ <|
    .head ⟨false, _, .step (.call (.send (fun e h => by cases h) rfl)), rfl⟩ <|
    .head ⟨false, _, .step (.call (.push rfl rfl)), rfl⟩ <|
    .head ⟨false, _, .step (.call .close), rfl⟩ <|
    .head ⟨false, _, .step (.turn (.take rfl)), rfl⟩ <|
    .head ⟨false, _, .step (.turn (.finish rfl)), rfl⟩ <|
    .head ⟨false, _, .step (.turn (.ask rfl)), rfl⟩ <|
    .head ⟨false, _, .step (.turn (.report rfl)), rfl⟩ <|
    .head ⟨false, _, .step (.call (.finish rfl)), rfl⟩ <|
    .head ⟨true, _, .cancel rfl, rfl⟩ <|
    .head ⟨true, _, .notice rfl rfl rfl, rfl⟩ <|
    .head ⟨true, _, .step (.turn (.ask rfl)), rfl⟩ <|
    .head ⟨true, _, .step (.turn (.report rfl)), rfl⟩ <|
    .head ⟨true, _, .step (.call .close), rfl⟩ <|
    .single ⟨true, _, .step (.call (.finish rfl)), rfl⟩
  exact ⟨_, hx, rfl, rfl, by decide +kernel, rfl, by decide +kernel, writers_unmixed _ .empty pair hx⟩

end House

end BlobStore.Writer
