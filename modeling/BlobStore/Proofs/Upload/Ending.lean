import BlobStore.Proofs.Upload.Moves

/-!
# Uploads that may be given up

An upload can be told to stop as long as it has not stopped reading by itself. What is kept by its
moves and by that is known of it under every schedule. The first such thing is whether the end of
the body has been read: an upload stores or completes nothing before.
-/

namespace BlobStore.Upload

variable {σ : Type} {serve : Service σ} {object : NewObject} {p : Nat}

theorem cancel_eq (object : NewObject) (p : Nat) (stage : Stage) :
    (Upload.mk object p stage).cancel = ⟨object, p, (Upload.mk object p stage).cancel.stage⟩ := by
  cases stage <;> rfl

theorem isReading_cancel (object : NewObject) (p : Nat) (stage : Stage) :
    (Upload.mk object p stage).cancel.stage.isReading = false := by
  cases stage <;> rfl

theorem rank_cancel_lt {stage : Stage} (h : stage.isReading = true) :
    (Upload.mk object p stage).cancel.stage.rank < stage.rank := by
  cases stage with
  | aborting | finished => cases h
  | opening | storing | creating | completing =>
    simp only [cancel, Stage.rank]
    omega
  | sending id sent =>
    simp only [cancel, Stage.rank]
    omega
  | gathering id sent =>
    simp only [cancel, Stage.rank]
    split <;> omega

/-- What is kept by the moves of an upload, and when it is told to stop while it still reads. -/
structure Lasting (serve : Service σ) (object : NewObject) (p : Nat)
    (P : ByteArray → Bool → Stage → σ → Prop) : Prop extends Kept serve object p P where
  canceled : ∀ {read ended stage s}, stage.isReading = true → P read ended stage s →
    P read ended (Upload.mk object p stage).cancel.stage s

namespace Lasting

variable {P : ByteArray → Bool → Stage → σ → Prop}

theorem and (k : Lasting serve object p P) {Q : σ → Prop} (hQ : ∀ r s, Q s → Q (serve r s).2) :
    Lasting serve object p fun read ended stage s => P read ended stage s ∧ Q s where
  toKept := k.toKept.and hQ
  canceled := fun hr h => ⟨k.canceled hr h.1, h.2⟩

/-- An upload that is told to stop while it waits for a chunk has nothing left to do but to be
aborted. -/
theorem settle_cancel (k : Lasting serve object p P) {read : ByteArray} {ended : Bool}
    {stage : Stage} {s : σ} (h : P read ended stage s)
    (hc : (Upload.mk object p stage).needsChunk = true) :
    ∃ t, (Upload.mk object p stage).cancel.settle serve s =
        (⟨object, p, .finished (.error .canceled)⟩, t) ∧
      P read ended (.finished (.error .canceled)) t := by
  rcases needsChunk_eq_true hc with ⟨held, rfl⟩ | ⟨id, sent, held, rfl⟩
  · exact ⟨s, settle_finished serve object p _ s, k.canceled rfl h⟩
  · have hstop : P read ended (.aborting id .canceled) s := k.canceled rfl h
    have habort : Asks object p (.aborting id .canceled) _ _ := .aborting id .canceled
    refine ⟨_, (settle_of_asks habort s).trans (settle_finished serve object p _ _), ?_⟩
    exact k.answer habort hstop

end Lasting

/-- Whether the end of the body has been read. An upload that has failed or is about to fail does
not tell. -/
def Stage.KnowsEnd (ended : Bool) : Stage → Prop
  | .opening held => held.ended = false ∧ ended = false
  | .gathering _ _ held => held.ended = false ∧ ended = false
  | .creating _ rest => rest.ended = ended
  | .sending _ _ _ rest => rest.ended = ended
  | .storing _ => ended = true
  | .completing _ _ => ended = true
  | .finished (.ok ()) => ended = true
  | .aborting _ _ => True
  | .finished (.error _) => True

theorem knowsEnd_afterOpening (p : Nat) (held : Held) :
    (Stage.afterOpening p held).KnowsEnd held.ended := by
  unfold Stage.afterOpening
  split
  · dsimp only
    split
    · rename_i hlast
      rw [Bool.and_eq_true, Held.ended_rest] at hlast
      exact hlast.1
    · exact held.ended_rest p
  · rename_i hr
    rw [Held.isReady_eq_true, not_or, Bool.not_eq_true] at hr
    exact ⟨hr.1, hr.1⟩

theorem knowsEnd_afterGathering (p : Nat) (id : String) (sent : Array PartReceipt) (held : Held) :
    (Stage.afterGathering p id sent held).KnowsEnd held.ended := by
  unfold Stage.afterGathering
  split
  · rename_i hr
    split
    · rename_i hempty
      rw [Held.isEmpty_eq_true] at hempty
      rcases Held.isReady_eq_true.mp hr with hended | hlt
      · exact hended
      · omega
    · split
      · exact trivial
      · exact held.ended_rest p
  · rename_i hr
    rw [Held.isReady_eq_true, not_or, Bool.not_eq_true] at hr
    exact ⟨hr.1, hr.1⟩

theorem knowsEnd_opening {held : Held} (h : held.ended = false) (chunk : ByteArray) :
    (Stage.afterOpening p (held.add (some chunk))).KnowsEnd false := by
  have hafter := knowsEnd_afterOpening p (held.add (some chunk))
  rw [Held.ended_add_some, h] at hafter
  exact hafter

theorem knowsEnd_gathering {id : String} {sent : Array PartReceipt} {held : Held}
    (h : held.ended = false) (chunk : ByteArray) :
    (Stage.afterGathering p id sent (held.add (some chunk))).KnowsEnd false := by
  have hafter := knowsEnd_afterGathering p id sent (held.add (some chunk))
  rw [Held.ended_add_some, h] at hafter
  exact hafter

theorem Asks.knowsEnd {stage : Stage} {r : Request} {next : Answer r → Stage} {ended : Bool}
    (ha : Asks object p stage r next) (h : stage.KnowsEnd ended) (a : Answer r) :
    (next a).KnowsEnd ended := by
  cases ha with
  | storing =>
    cases a with
    | error => exact trivial
    | ok => exact h
  | creating =>
    rcases a with _ | _ | _
    · exact trivial
    · exact trivial
    · exact h
  | sending id sent part rest =>
    cases a with
    | error => exact trivial
    | ok =>
      have hafter := knowsEnd_afterGathering p id (sent.push ⟨sent.size + 1, ‹_›⟩) rest
      have hrest : rest.ended = ended := h
      rw [hrest] at hafter
      exact hafter
  | completing =>
    cases a with
    | error => exact trivial
    | ok => exact h
  | aborting => exact trivial

theorem knowsEnd_needsChunk {stage : Stage} (h : stage.KnowsEnd true) :
    (Upload.mk object p stage).needsChunk = false := by
  cases stage with
  | opening | gathering => cases h.2
  | _ => rfl

theorem lasting_knowsEnd (serve : Service σ) (object : NewObject) (p : Nat) :
    Lasting serve object p fun _ ended stage _ => stage.KnowsEnd ended where
  answer := fun ha h => ha.knowsEnd h _
  opening := fun h => knowsEnd_opening h.1 _
  gathering := fun h => knowsEnd_gathering h.1 _
  openingEnd := fun _ => knowsEnd_afterOpening p _
  gatheringEnd := fun _ => knowsEnd_afterGathering p _ _ _
  rests := knowsEnd_needsChunk
  canceled := by
    intro read ended stage s _ h
    cases stage with
    | finished => exact h
    | _ => exact trivial

end BlobStore.Upload
