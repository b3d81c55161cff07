import BlobStore.Proofs.Writer.Cancellation

/-!
# The calls of a writer as schedules

The calls of a writer run the task only when they have to wait for it. Each is a schedule of the
moves of the caller and of the task, with the same results.
-/

namespace BlobStore

private theorem Upload.settle_canceled {σ : Type} (serve : Service σ) {u : Upload}
    (h : u.needsChunk = true) (s : σ) :
    ∃ t, u.cancel.settle serve s = (⟨u.object, u.partSize, .finished (.error .canceled)⟩, t) := by
  obtain ⟨object, p, stage⟩ := u
  rcases needsChunk_eq_true h with ⟨held, rfl⟩ | ⟨id, sent, held, rfl⟩
  · exact ⟨s, settle_finished serve object p _ s⟩
  · have habort : Asks object p (.aborting id .canceled) _ _ := .aborting id .canceled
    exact ⟨_, (settle_of_asks habort s).trans (settle_finished serve object p _ _)⟩

namespace Writer

open Upload

variable {σ : Type} {serve : Service σ}

def Task.Turns (serve : Service σ) (a : Task) (s : σ) (b : Task) (t : σ) : Prop :=
  Relation.ReflTransGen (fun x y : Task × σ => Turn serve x.1 x.2 y.1 y.2) (a, s) (b, t)

theorem Task.Turn.before {a b c : Task} {s t u : σ} (h : Turn serve a s b t)
    (hs : Turns serve b t c u) : Turns serve a s c u :=
  Relation.ReflTransGen.head h hs

/-- A running task waits for a chunk. -/
def IsParked (w : Writer) : Prop :=
  ∀ upload queue bodyEnded, w.task = .running upload queue bodyEnded → upload.needsChunk = true

private theorem turns_settle (serve : Service σ) (u : Upload) (queue : List ByteArray)
    (bodyEnded : Bool) (s : σ) :
    (u.settle serve s).1.IsResting ∧
      Task.Turns serve (.running u queue bodyEnded) s
        (.running (u.settle serve s).1 queue bodyEnded) (u.settle serve s).2 := by
  obtain ⟨object, p, stage⟩ := u
  induction hn : stage.rank using Nat.strongRecOn generalizing stage s with
  | ind n ih =>
    rcases asks_or_rests object p stage with ⟨r, next, ha⟩ | hrest
    · obtain ⟨hr, hturns⟩ := ih _ (hn ▸ rank_lt_of_asks ha (serve r s).1) (serve r s).2 _ rfl
      rw [settle_of_asks ha]
      exact ⟨hr, (Task.Turn.ask ha.demand).before hturns⟩
    · rw [settle_of_isResting hrest]
      exact ⟨hrest, .refl⟩

private theorem turns_rest {u : Upload} (h : u.IsResting) (queue : List ByteArray)
    (bodyEnded : Bool) (s : σ) :
    Task.Turns serve (.running u queue bodyEnded) s (rest u queue bodyEnded) s := by
  unfold rest
  split
  · exact .refl
  · rename_i hn
    rcases h with hc | ⟨outcome, ho⟩
    · exact absurd hc hn
    · obtain ⟨object, p, stage⟩ := u
      obtain rfl := ho
      exact (Task.Turn.report rfl).before .refl

private theorem turns_drain {u : Upload} (h : u.IsResting) (bodyEnded : Bool)
    (queue : List ByteArray) (s : σ) :
    Task.Turns serve (.running u queue bodyEnded) s (drain serve u bodyEnded queue s).1
      (drain serve u bodyEnded queue s).2 := by
  induction queue generalizing u s with
  | nil =>
    rw [drain]
    split
    · rename_i hc
      obtain ⟨rfl, hc⟩ := Bool.and_eq_true_iff.mp hc
      obtain ⟨hrest, hturns⟩ := turns_settle serve (u.feed none) [] true s
      exact (Task.Turn.finish hc).before (hturns.trans (turns_rest hrest [] true _))
    · exact turns_rest h [] bodyEnded s
  | cons chunk queue ih =>
    rw [drain]
    split
    · rename_i hc
      obtain ⟨hrest, hturns⟩ := turns_settle serve (u.feed (some chunk)) queue bodyEnded s
      exact (Task.Turn.take hc).before (hturns.trans (ih hrest _))
    · exact turns_rest h (chunk :: queue) bodyEnded s

private theorem turns_poll {w : Writer} (hc : w.canceled = false) (hw : w.IsParked) (s : σ) :
    Task.Turns serve w.task s (w.poll serve s).1.task (w.poll serve s).2 := by
  obtain ⟨object, p, canceled, task⟩ := w
  obtain rfl : canceled = false := hc
  cases task with
  | idle | ended => exact .refl
  | running u queue bodyEnded => exact turns_drain (Or.inl (hw u queue bodyEnded rfl)) bodyEnded queue s

theorem IsParked.start {w : Writer} (hw : w.IsParked) : w.start.IsParked := by
  obtain ⟨object, p, canceled, task⟩ := w
  cases task with
  | idle =>
    intro upload queue bodyEnded ht
    cases ht
    rfl
  | running | ended => exact hw

theorem IsParked.endBody {w : Writer} (hw : w.IsParked) : w.endBody.IsParked := by
  obtain ⟨object, p, canceled, task⟩ := w
  cases task with
  | running upload queue bodyEnded =>
    intro upload' queue' bodyEnded' ht
    cases ht
    exact hw upload queue bodyEnded rfl
  | idle | ended => exact hw

theorem start_ne_idle (w : Writer) : w.start.task ≠ .idle := by
  obtain ⟨object, p, canceled, task⟩ := w
  cases task <;> exact nofun

private theorem poll_eq (w : Writer) (s : σ) :
    (w.poll serve s).1 = { w with task := (w.poll serve s).1.task } := by
  obtain ⟨object, p, canceled, task⟩ := w
  cases task with
  | running => cases canceled <;> rfl
  | idle | ended => rfl

private theorem rest_of_needsChunk {u : Upload} (h : u.needsChunk = true) (queue : List ByteArray)
    (bodyEnded : Bool) : rest u queue bodyEnded = .running u queue bodyEnded :=
  if_pos h

private theorem rest_of_not_needsChunk {u : Upload} (h : u.needsChunk = false)
    (queue : List ByteArray) (bodyEnded : Bool) : rest u queue bodyEnded = .ended u.outcome :=
  if_neg (by simp [h])

/-- A task that has gone through its queue waits for another chunk if there may be one, or has
ended. -/
theorem drain_cases (serve : Service σ) (u : Upload) (bodyEnded : Bool) (queue : List ByteArray) (s : σ) :
    (bodyEnded = false ∧ ∃ u' : Upload, u'.needsChunk = true ∧
      (drain serve u bodyEnded queue s).1 = .running u' [] false) ∨
    ∃ outcome, (drain serve u bodyEnded queue s).1 = .ended outcome := by
  induction queue generalizing u s with
  | nil =>
    rw [drain]
    split
    · rename_i hc
      have hn := settle_feed_none serve (Bool.and_eq_true_iff.mp hc).2 s
      exact Or.inr ⟨_, rest_of_not_needsChunk hn [] true⟩
    · rename_i hc
      cases hn : u.needsChunk with
      | false => exact Or.inr ⟨_, rest_of_not_needsChunk hn [] bodyEnded⟩
      | true =>
        have hb : bodyEnded = false := by simpa [hn] using hc
        subst hb
        exact Or.inl ⟨rfl, u, hn, rest_of_needsChunk hn [] false⟩
  | cons chunk queue ih =>
    rw [drain]
    split
    · exact ih _ _
    · rename_i hn
      exact Or.inr ⟨_, rest_of_not_needsChunk (by simpa using hn) _ bodyEnded⟩

theorem canceled_poll (w : Writer) (s : σ) : (w.poll serve s).1.canceled = w.canceled := by
  rw [poll_eq]

theorem poll_of_canceled {w : Writer} {upload : Upload} {queue : List ByteArray} {bodyEnded : Bool}
    (hc : w.canceled = true) (hw : w.IsParked) (ht : w.task = .running upload queue bodyEnded) (s : σ) :
    (w.poll serve s).1.task = .ended (.error .canceled) := by
  obtain ⟨t, hsettle⟩ := settle_canceled serve (hw _ _ _ ht) s
  rw [poll, ht]
  simp only [hc, if_true, hsettle]
  rfl

theorem IsParked.poll {w : Writer} (hw : w.IsParked) (serve : Service σ) (s : σ) :
    (w.poll serve s).1.IsParked := by
  intro upload queue bodyEnded ht
  cases hc : w.canceled with
  | true =>
    cases hrunning : w.task with
    | running =>
      rw [poll_of_canceled hc hw hrunning] at ht
      cases ht
    | idle | ended =>
      rw [Writer.poll, hrunning] at ht
      exact hw _ _ _ ht
  | false =>
    obtain ⟨object, p, canceled, task⟩ := w
    obtain rfl : canceled = false := hc
    cases task with
    | idle | ended => cases ht
    | running u before ended =>
      have hdrained : (drain serve u ended before s).1 = .running upload queue bodyEnded := ht
      rcases drain_cases serve u ended before s with ⟨-, u', hu, hd⟩ | ⟨outcome, hd⟩
      · cases hd.symm.trans hdrained
        exact hu
      · cases hd.symm.trans hdrained

namespace Session

variable {todo : List ByteArray} {written : List (ByteArray × Except Error Nat)} {w : Writer}

private theorem steps_turns {caller : Caller} {a b : Task} {s t : σ}
    (h : Task.Turns serve a s b t) :
    Steps serve ⟨todo, written, caller, { w with task := a }, s⟩
      ⟨todo, written, caller, { w with task := b }, t⟩ := by
  unfold Task.Turns at h
  generalize hx : (a, s) = x at h
  generalize hy : (b, t) = y at h
  induction h using Relation.ReflTransGen.head_induction_on generalizing a s with
  | refl =>
    cases hx.trans hy.symm
    exact .refl
  | head hturn _ ih =>
    subst hx
    exact .head (.turn hturn) (ih rfl)

private theorem steps_poll {caller : Caller} (hc : w.canceled = false) (hw : w.IsParked) (s : σ) :
    Steps serve ⟨todo, written, caller, w, s⟩
      ⟨todo, written, caller, (w.poll serve s).1, (w.poll serve s).2⟩ := by
  rw [poll_eq]
  exact steps_turns (turns_poll hc hw s)

theorem Steps.moves {x y : Session σ} (h : Steps serve x y) : Moves serve x y :=
  Relation.ReflTransGen.mono (fun _ _ => Move.step) _ _ h

private theorem isListening_of_push? (hw : w.IsParked) {chunk : ByteArray} {w' : Writer}
    (h : w.push? chunk = some w') : w.isListening = true := by
  obtain ⟨upload, queue, bodyEnded, ht, _⟩ := push?_eq_some h
  exact isListening_of_needsChunk ht (hw _ _ _ ht)

private theorem push?_parked (hc : w.canceled = false) (hw : w.IsParked) {chunk : ByteArray}
    {w' : Writer} (h : w.push? chunk = some w') : w'.canceled = false ∧ w'.IsParked := by
  obtain ⟨upload, queue, bodyEnded, ht, _, rfl⟩ := push?_eq_some h
  refine ⟨hc, ?_⟩
  intro upload' queue' bodyEnded' ht'
  cases ht'
  exact hw _ _ _ ht

private theorem push?_or_ended (serve : Service σ) (hc : w.canceled = false) (hn : w.task ≠ .idle)
    (chunk : ByteArray) (s : σ) :
    (∃ w', (w.poll serve s).1.push? chunk = some w') ∨
      ∃ outcome, (w.poll serve s).1.task = .ended outcome := by
  obtain ⟨object, p, canceled, task⟩ := w
  obtain rfl : canceled = false := hc
  cases task with
  | idle => exact absurd rfl hn
  | ended outcome => exact Or.inr ⟨outcome, rfl⟩
  | running u queue bodyEnded =>
    have htask : (poll serve ⟨object, p, false, .running u queue bodyEnded⟩ s).1.task =
      (drain serve u bodyEnded queue s).1 := rfl
    rcases drain_cases serve u bodyEnded queue s with ⟨-, u', -, hd⟩ | ⟨outcome, hd⟩
    · rw [hd] at htask
      refine Or.inl ?_
      unfold push?
      rw [htask]
      exact ⟨_, rfl⟩
    · exact Or.inr ⟨outcome, htask.trans hd⟩

private theorem push?_of_ended {outcome : Except Fault Unit} (h : w.task = .ended outcome)
    (chunk : ByteArray) : w.push? chunk = none ∧ w.outcome? = some outcome ∧
      w.isListening = false := by
  simp [push?, outcome?, isListening, h]

theorem steps_send (hc : w.canceled = false) (hw : w.IsParked) (hn : w.task ≠ .idle)
    (chunk : ByteArray) (s : σ) :
    Steps serve ⟨todo, written, .sending chunk, w, s⟩
      ⟨todo, written ++ [(chunk, (send serve w chunk s).1.1)], .idle, (send serve w chunk s).1.2,
        (send serve w chunk s).2⟩ := by
  unfold send
  cases hpush : w.push? chunk with
  | some w' => exact .single (.call (.push (isListening_of_push? hw hpush) hpush))
  | none =>
    refine (steps_poll hc hw s).trans ?_
    rcases push?_or_ended serve hc hn chunk s with ⟨w', hpush'⟩ | ⟨outcome, hend⟩
    · have hl := isListening_of_push? (hw.poll serve s) hpush'
      simp only [hpush']
      exact .single (.call (.push hl hpush'))
    · obtain ⟨hpush', hout, hdeaf⟩ := push?_of_ended hend chunk
      simp only [hpush', hout]
      cases outcome with
      | error e => exact .head (.call (.refuse hdeaf)) (.single (.call (.tell hout)))
      | ok => exact .head (.call (.refuse hdeaf)) (.single (.call (.tell hout)))

private theorem poll_endBody (serve : Service σ) (hc : w.canceled = false) (hn : w.task ≠ .idle)
    (s : σ) :
    ∃ outcome, (w.endBody.poll serve s).1.outcome? = some outcome := by
  obtain ⟨object, p, canceled, task⟩ := w
  obtain rfl : canceled = false := hc
  cases task with
  | idle => exact absurd rfl hn
  | ended outcome => exact ⟨outcome, rfl⟩
  | running u queue bodyEnded =>
    rcases drain_cases serve u true queue s with ⟨hb, _⟩ | ⟨outcome, hd⟩
    · cases hb
    · exact ⟨outcome, congrArg (fun task => Writer.outcome? ⟨object, p, false, task⟩) hd⟩

theorem send_parked (serve : Service σ) (hc : w.canceled = false) (hw : w.IsParked)
    (chunk : ByteArray) (s : σ) :
    (send serve w chunk s).1.2.canceled = false ∧ (send serve w chunk s).1.2.IsParked := by
  have hpoll : (w.poll serve s).1.canceled = false ∧ (w.poll serve s).1.IsParked :=
    ⟨(canceled_poll w s).trans hc, hw.poll serve s⟩
  unfold send
  split
  · rename_i hpush
    exact push?_parked hc hw hpush
  · dsimp only
    split
    · rename_i hpush
      exact push?_parked hpoll.1 hpoll.2 hpush
    · split
      · exact hpoll
      · exact hpoll
      · exact hpoll

theorem steps_write (hc : w.canceled = false) (hw : w.IsParked) (chunk : ByteArray) (s : σ) :
    Steps serve ⟨chunk :: todo, written, .idle, w, s⟩
      ⟨todo, written ++ [(chunk, (w.write serve chunk s).1.1)], .idle, (w.write serve chunk s).1.2,
        (w.write serve chunk s).2⟩ := by
  unfold write
  split
  · rename_i e hout
    exact .single (.call (.fail hout))
  · rename_i hout
    cases he : chunk.isEmpty with
    | true => exact .single (.call (.skip hout he))
    | false =>
      have hcanceled := (canceled_start w).trans hc
      exact .head (.call (.send hout he)) (steps_send hcanceled hw.start (start_ne_idle w) chunk s)

theorem write_parked (serve : Service σ) (hc : w.canceled = false) (hw : w.IsParked)
    (chunk : ByteArray) (s : σ) :
    (w.write serve chunk s).1.2.canceled = false ∧ (w.write serve chunk s).1.2.IsParked := by
  unfold write
  split
  · exact ⟨hc, hw⟩
  · split
    · exact ⟨hc, hw⟩
    · exact send_parked serve ((canceled_start w).trans hc) hw.start chunk s

theorem steps_close (hc : w.canceled = false) (hw : w.IsParked) (s : σ) :
    ∃ w', Steps serve ⟨[], written, .idle, w, s⟩
      ⟨[], written, .closed (w.close serve s).1, w', (w.close serve s).2⟩ := by
  have hcanceled := (canceled_start w).trans hc
  have hcanceled' := (canceled_endBody w.start).trans hcanceled
  obtain ⟨outcome, hout⟩ := poll_endBody serve hcanceled (start_ne_idle w) s
  refine ⟨(w.start.endBody.poll serve s).1, ?_⟩
  have hclose : w.close serve s = (outcome.mapError .ofFault, (w.start.endBody.poll serve s).2) := by
    simp only [close, hout]
    cases outcome <;> rfl
  rw [hclose]
  exact .head (.call .close) ((steps_poll hcanceled' hw.start.endBody s).tail (.call (.finish hout)))

end Session

end Writer

end BlobStore
