import BlobStore.Bucket
import BlobStore.Proofs.Mishap
import BlobStore.Proofs.Upload.Moves

/-!
# Services in a larger state

A service may be a part of a larger state that its answers do not depend on. Uploads and writers do
there what they do with the service alone, and leave the rest as it is.
-/

namespace BlobStore

variable {σ τ : Type} {inner : Service σ} {outer : Service τ} {embed : σ → τ}

def Service.Embeds (inner : Service σ) (outer : Service τ) (embed : σ → τ) : Prop :=
  ∀ r s, outer r (embed s) = ((inner r s).1, embed (inner r s).2)

/-- The mishaps that are still to come after some events. -/
def Mishaps.after (plan : Mishaps) (past : List Event) : Mishaps := fun events => plan (past ++ events)

@[simp] theorem Mishaps.after_none (past : List Event) : Mishaps.none.after past = .none := rfl

/-- A record may have been begun before. -/
theorem Service.embeds_past (serve : Service σ) (plan : Mishaps) (past : List Event) :
    (serve.noted (plan.after past)).Embeds (serve.noted plan)
      fun x => ⟨x.state, past ++ x.events⟩ := by
  intro r x
  have hanswer : (plan.after past).answer? x.events r = plan.answer? (past ++ x.events) r := rfl
  unfold noted
  dsimp only
  rw [hanswer]
  split
  · rw [List.append_assoc]
  · rw [List.append_assoc]

namespace Upload

private theorem settle_embed (h : inner.Embeds outer embed) (u : Upload) (s : σ) :
    u.settle outer (embed s) = ((u.settle inner s).1, embed (u.settle inner s).2) := by
  obtain ⟨object, p, stage⟩ := u
  induction hn : stage.rank using Nat.strongRecOn generalizing stage s with
  | ind n ih =>
    rcases asks_or_rests object p stage with ⟨r, next, ha⟩ | hrest
    · have hlt : (next (inner r s).1).rank < n := hn ▸ rank_lt_of_asks ha _
      rw [settle_of_asks ha, settle_of_asks ha, h]
      exact ih _ hlt _ _ rfl
    · rw [settle_of_isResting hrest, settle_of_isResting hrest]

end Upload

namespace Writer

private theorem drain_embed (h : inner.Embeds outer embed) (u : Upload) (bodyEnded : Bool)
    (queue : List ByteArray) (s : σ) :
    drain outer u bodyEnded queue (embed s) =
      ((drain inner u bodyEnded queue s).1, embed (drain inner u bodyEnded queue s).2) := by
  induction queue generalizing u s with
  | nil =>
    simp only [drain, Upload.settle_embed h]
    split
    · rfl
    · rfl
  | cons chunk queue ih =>
    simp only [drain, Upload.settle_embed h]
    split
    · exact ih _ _
    · rfl

private theorem poll_embed (h : inner.Embeds outer embed) (w : Writer) (s : σ) :
    w.poll outer (embed s) = ((w.poll inner s).1, embed (w.poll inner s).2) := by
  unfold poll
  split
  · split
    · simp only [Upload.settle_embed h]
    · simp only [drain_embed h]
  · rfl

theorem polls_embed (h : inner.Embeds outer embed) (n : Nat) (w : Writer) (s : σ) :
    w.polls outer n (embed s) = ((w.polls inner n s).1, embed (w.polls inner n s).2) := by
  induction n generalizing w s with
  | zero => rfl
  | succ n ih =>
    simp only [polls, poll_embed h]
    exact ih _ _

theorem send_embed (h : inner.Embeds outer embed) (w : Writer) (chunk : ByteArray) (s : σ) :
    w.send outer chunk (embed s) = ((w.send inner chunk s).1, embed (w.send inner chunk s).2) := by
  unfold send
  split
  · rfl
  · simp only [poll_embed h]
    split
    · rfl
    · split <;> rfl

private theorem write_embed (h : inner.Embeds outer embed) (w : Writer) (chunk : ByteArray)
    (s : σ) :
    w.write outer chunk (embed s) = ((w.write inner chunk s).1, embed (w.write inner chunk s).2) := by
  unfold write
  split
  · rfl
  · split
    · rfl
    · exact send_embed h _ _ _

theorem close_embed (h : inner.Embeds outer embed) (w : Writer) (s : σ) :
    w.close outer (embed s) = ((w.close inner s).1, embed (w.close inner s).2) := by
  simp only [close, poll_embed h]
  split <;> rfl

private theorem abandon_embed (h : inner.Embeds outer embed) (w : Writer) (s : σ) :
    w.abandon outer (embed s) = embed (w.abandon inner s) := by
  simp only [abandon, poll_embed h]

end Writer

theorem Bucket.writeAll_embed (h : inner.Embeds outer embed) (name key : String) (data : ByteArray)
    (options : WriteOptions) (adjust : Adjust NewObject) (s : σ) :
    (Bucket.mk name outer).writeAll key data options adjust (embed s) =
      (((Bucket.mk name inner).writeAll key data options adjust s).1,
        embed ((Bucket.mk name inner).writeAll key data options adjust s).2) := by
  have hopen : (Bucket.mk name outer).openWriter key options adjust =
      (Bucket.mk name inner).openWriter key options adjust := rfl
  unfold writeAll
  rw [hopen]
  cases (Bucket.mk name inner).openWriter key options adjust with
  | error e => rfl
  | ok w =>
    simp only [Writer.write_embed h]
    rcases w.write inner data s with ⟨⟨_ | _, w⟩, t⟩
    · exact congrArg _ (Writer.abandon_embed h w t)
    · exact Writer.close_embed h w t

end BlobStore
