import BlobStore.Proofs.Writer.Cancellation

/-!
# The outcome of a task

A task tells once how its upload has ended, and every call of its writer that fails or closes it
tells the same. Nobody waits for ever: as long as a call cannot go on, the task can.
-/

namespace BlobStore.Writer

open Upload

variable {σ : Type} {serve : Service σ} {object : NewObject} {p : Nat}

private theorem isListening_eq_true {w : Writer} (h : w.isListening = true) :
    ∃ upload queue bodyEnded, w.task = .running upload queue bodyEnded := by
  unfold isListening at h
  split at h
  · rename_i upload queue bodyEnded ht
    exact ⟨upload, queue, bodyEnded, ht⟩
  · cases h

namespace Session

variable {P : ByteArray → Bool → Stage → σ → Prop} {buffers : List ByteArray} {x : Session σ}

/-- Until the writer is closed, the call that has been made can go on or the task can. -/
theorem Orderly.call_or_turn (serve : Service σ) (h : Orderly object p P buffers x) :
    (∃ result, x.caller = .closed result) ∨ (∃ y, Call x y) ∨
      ∃ task t, Task.Turn serve x.writer.task x.state task t := by
  obtain ⟨todo, written, caller, w, s⟩ := x
  have hcaller := h.caller
  cases caller with
  | closed result => exact Or.inl ⟨result, rfl⟩
  | idle => exact Or.inr (Or.inl (call_of_idle todo written w s))
  | sending chunk =>
    cases hl : w.isListening with
    | false => exact Or.inr (Or.inl ⟨_, .refuse hl⟩)
    | true =>
      obtain ⟨upload, queue, bodyEnded, ht⟩ := isListening_eq_true hl
      by_cases hroom : queue.length < queueCapacity
      · have hpush : w.push? chunk =
            some { w with task := .running upload (queue ++ [chunk]) bodyEnded } := by
          rw [push?, ht]
          exact if_pos hroom
        exact Or.inr (Or.inl ⟨_, .push hl hpush⟩)
      · rcases Task.turn_or_waits serve upload queue bodyEnded s with ⟨b, t, hturn⟩ | ⟨-, rfl, -⟩
        · exact Or.inr (Or.inr ⟨b, t, ht ▸ hturn⟩)
        · exact absurd (by decide) hroom
  | refused chunk =>
    cases ht : w.task with
    | idle => exact absurd ht hcaller.1
    | ended outcome =>
      have hout : w.outcome? = some outcome := by rw [outcome?, ht]
      exact Or.inr (Or.inl ⟨_, .tell hout⟩)
    | running upload queue bodyEnded =>
      rcases Task.turn_or_waits serve upload queue bodyEnded s with ⟨b, t, hturn⟩ | ⟨hc, -, -⟩
      · exact Or.inr (Or.inr ⟨b, t, ht ▸ hturn⟩)
      · have hl := isListening_of_needsChunk ht hc
        rw [hcaller.2] at hl
        cases hl
  | closing =>
    have htask := h.task
    cases ht : w.task with
    | idle => exact absurd ht hcaller.2
    | ended outcome =>
      have hout : w.outcome? = some outcome := by rw [outcome?, ht]
      exact Or.inr (Or.inl ⟨_, .finish hout⟩)
    | running upload queue bodyEnded =>
      dsimp only at htask
      rw [ht] at htask
      -- The end of the body is there once the queue is empty.
      have hended : bodyEnded = true := htask.1
      rcases Task.turn_or_waits serve upload queue bodyEnded s with ⟨b, t, hturn⟩ | ⟨-, -, hb⟩
      · exact Or.inr (Or.inr ⟨b, t, ht ▸ hturn⟩)
      · rw [hended] at hb
        cases hb

private theorem Orderly.same_error (h : Orderly object p P buffers x)
    {a b : ByteArray × Except Error Nat} (ha : a ∈ x.written) (hb : b ∈ x.written)
    (hrefused : b.2.toBool = false) {e : Error} (he : a.2 = .error e) : b.2 = .error e := by
  rcases h.results a ha with hok | ⟨f, hf, hout⟩
  · rw [he] at hok
    cases hok
  · rcases h.results b hb with hok | ⟨g, hg, hout'⟩
    · rw [hok] at hrefused
      cases hrefused
    · rw [hout] at hout'
      cases hout'
      rw [hg, ← hf, he]

/-- What there is to say of the outcome of a task in the midst of a session. -/
structure Gated (serve : Service σ) (x : Session σ) : Prop where
  /-- It is told once. -/
  once : ∀ outcome, x.writer.outcome? = some outcome →
    ∀ y, Moves serve x y → y.writer.outcome? = some outcome
  /-- After a write has been refused every write is, with the same error. -/
  sticky : x.written.Pairwise fun a b => ∀ e, a.2 = .error e → b.2 = .error e
  closed : ∀ result, x.caller = .closed result →
    ∃ outcome, x.writer.outcome? = some outcome ∧ result = outcome.mapError .ofFault
  closed_sticky : ∀ w ∈ x.written, ∀ e, w.2 = .error e →
    ∀ result, x.caller = .closed result → result = .error e
  /-- A write that has found nobody listening does not find that the upload has ended well. -/
  refused : ∀ chunk, x.caller = .refused chunk → x.writer.outcome? ≠ some (.ok ())
  /-- A call that cannot go on waits for a task that can. -/
  live : (∃ result, x.caller = .closed result) ∨ (∃ y, Call x y) ∨
    ∃ task t, Task.Turn serve x.writer.task x.state task t

private theorem Orderly.gated
    (hknows : ∀ {read ended stage s}, P read ended stage s → stage.KnowsEnd ended)
    (serve : Service σ) (h : Orderly object p P buffers x) : Gated serve x where
  once := fun _ ho _ hm => hm.outcome? ho
  sticky := by
    refine h.sticky.imp_of_mem ?_
    intro a b ha hb himp e he
    have hrefused : a.2.toBool = false := by rw [he]; rfl
    exact h.same_error ha hb (himp hrefused) he
  closed := fun _ hclosed => h.outcome?_of_closed hclosed
  closed_sticky := by
    intro w hw e he result hclosed
    obtain ⟨outcome, hout, rfl⟩ := h.outcome?_of_closed hclosed
    rcases h.results w hw with hok | ⟨f, hf, hout'⟩
    · rw [he] at hok
      cases hok
    · rw [hout] at hout'
      cases hout'
      rw [he] at hf
      rw [Except.error.inj hf]
      rfl
  refused := by
    intro chunk hrefused
    exact h.outcome?_of_open hknows (by rw [hrefused]; rfl)
  live := h.call_or_turn serve

/-- Whatever the service answers and whenever the writer is canceled, the outcome of its task is
told once, every call that fails or closes the writer tells that outcome, and a call that cannot go
on waits for a task that can. No schedule goes on for ever, so that all calls return. -/
theorem outcome_gated (serve : Service σ) (object : NewObject) (p : Nat) (buffers : List ByteArray)
    (s : σ) :
    (∀ x, Moves serve (start object p buffers s) x → Gated serve x) ∧
      ∀ run : Nat → Session σ, ¬∀ n, Move serve (run n) (run (n + 1)) := by
  refine ⟨?_, not_endless_moves serve⟩
  intro x hx
  have hstart : Orderly object p (fun _ ended stage (_ : σ) => stage.KnowsEnd ended) buffers
      (start object p buffers s) := orderly_start ⟨rfl, rfl⟩
  have hx' := hstart.moves (lasting_knowsEnd serve object p) (fun h => h) hx
  exact hx'.gated (fun h => h) serve

/-- Every request is refused. -/
def refusing : Service Unit := fun _ s => (.error (.service "SlowDown" none), s)

theorem outcome_gated_refusing :
    ∃ x, Moves refusing
        (start ⟨⟨"bucket", "key"⟩, .none, none⟩ 1 [⟨#[1, 2]⟩, ⟨#[]⟩, ⟨#[3]⟩] ()) x ∧
      x.written.map Prod.snd = [.ok 2, .error (.ofFault (.service "SlowDown" none)),
        .error (.ofFault (.service "SlowDown" none))] ∧
      x.caller = .closed (.error (.ofFault (.service "SlowDown" none))) ∧
      Gated refusing x := by
  have hrun : Moves refusing
      (start ⟨⟨"bucket", "key"⟩, .none, none⟩ 1 [⟨#[1, 2]⟩, ⟨#[]⟩, ⟨#[3]⟩] ()) _ :=
    .head (.step (.call (.send (fun e h => by cases h) rfl))) <|
    .head (.step (.call (.push rfl rfl))) <|
    .head (.step (.turn (.take rfl))) <|
    .head (.step (.turn (.ask rfl))) <|
    .head (.step (.turn (.report rfl))) <|
    .head (.step (.call (.fail rfl))) <|
    .head (.step (.call (.fail rfl))) <|
    .head (.step (.call .close)) <|
    .single (.step (.call (.finish rfl)))
  exact ⟨_, hrun, rfl, rfl, (outcome_gated refusing _ _ _ _).1 _ hrun⟩

end Session

end BlobStore.Writer
