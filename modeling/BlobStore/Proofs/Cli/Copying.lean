import BlobStore.Cli.Put
import BlobStore.Proofs.Action
import BlobStore.Proofs.Writer.Embedded
import BlobStore.Proofs.Writer.Ended

/-!
# Copying under any schedule

A copy is a session with its writer: the task of the upload has its turns wherever the command has to
wait, and the user may interrupt the command there. What has been copied is stored whole if the copy
goes on to its end and the writer can be closed, and otherwise nothing is stored.
-/

namespace BlobStore.Cli.Put

open Writer (Session)

variable {σ α β : Type} {serve : Service σ}

/-! ## Parts of a copy -/

/-- Moves that have led to a session whose writer has neither been canceled nor closed. -/
structure Reached (serve : Service σ) (start x : Session σ) : Prop where
  moves : Session.Moves serve start x
  canceled : x.writer.canceled = false
  parked : x.writer.IsParked
  unclosed : x.caller.hasClosed = false

/-- A part of a copy goes on from a session to another one, which is as wanted unless the copy ends
there. -/
def Leads (serve : Service σ) (start x : Session σ) (part : Copy σ α) (wanted : α → Session σ → Prop) :
    Prop :=
  Reached serve start x → ∃ y, Reached serve start y ∧
    (part (x.writer, x.state)).2 = (y.writer, y.state) ∧
    ∀ a, (part (x.writer, x.state)).1 = .ok a → wanted a y

section Parts

variable {start x : Session σ} {part : Copy σ α} {wanted : α → Session σ → Prop} {piece : ByteArray}
  {todo : List ByteArray} {written : List (ByteArray × Except Error Nat)} {w : Writer} {s : σ}

theorem Leads.pure {a : α} (h : wanted a x) : Leads serve start x (Pure.pure a : Copy σ α) wanted :=
  fun hx => ⟨x, hx, rfl, fun _ ha => Except.ok.inj ha ▸ h⟩

theorem Leads.bind {f : α → Copy σ β} {last : β → Session σ → Prop}
    (h : Leads serve start x part wanted)
    (hf : ∀ a y, wanted a y → Leads serve start y (f a) last) :
    Leads serve start x (part >>= f) last := by
  intro hx
  obtain ⟨y, hy, hstate, hwanted⟩ := h hx
  cases hpart : part (x.writer, x.state) with
  | mk result reached =>
    rw [hpart] at hstate hwanted
    obtain rfl := hstate
    cases result with
    | error stop =>
      rw [bind_of_error hpart]
      exact ⟨y, hy, rfl, nofun⟩
    | ok a =>
      rw [bind_of_ok hpart]
      exact hf a y (hwanted a rfl) hy

/-- A piece has been taken, and the caller may go on with the rest. -/
structure Taken (piece : ByteArray) (todo : List ByteArray)
    (written : List (ByteArray × Except Error Nat)) (size : Nat) (y : Session σ) : Prop where
  size_eq : size = piece.size
  todo_eq : y.todo = todo
  written_eq : y.written = written ++ [(piece, .ok piece.size)]
  caller_eq : y.caller = .idle

theorem write_of_failed {e : Fault} (hout : w.outcome? = some (.error e)) (p : Pause) :
    Copy.write serve p piece (w, s) = (.error (.failed (.ofFault e)), (w, s)) := by
  simp only [Copy.write, hout]

theorem write_of_unfailed (hout : ∀ e, w.outcome? ≠ some (.error e)) (p : Pause) :
    Copy.write serve p piece (w, s) =
      (Copy.pause serve p >>= fun _ => Copy.send serve piece) (w.start, s) := by
  cases ho : w.outcome? with
  | none => simp only [Copy.write, ho]
  | some outcome =>
    cases outcome with
    | error e => exact absurd ho (hout e)
    | ok => simp only [Copy.write, ho]

/-- Pieces that have all been taken. -/
def granted (pieces : List ByteArray) : List (ByteArray × Except Error Nat) :=
  pieces.map fun piece => (piece, .ok piece.size)

end Parts

/-! ## Where a transfer ends -/

section Transfer

open Upload (Traced lasting_traced)

variable {plan : Mishaps} {m : Memory} {object : NewObject} {p : Nat} {source : Source}
  {buffers : List ByteArray} {x : Session (Noted Memory)}

end Transfer

/-! ## Services in a larger state -/

section Embedded

variable {τ : Type} {inner : Service σ} {outer : Service τ} {embed : σ → τ}

/-- A part of a copy does in a larger state what another does without. -/
def Alike (embed : σ → τ) (part : Copy σ α) (larger : Copy τ α) : Prop :=
  ∀ w s, larger (w, embed s) =
    ((part (w, s)).1, (part (w, s)).2.1, embed (part (w, s)).2.2)

theorem Alike.bind {part : Copy σ α} {larger : Copy τ α} {f : α → Copy σ β} {g : α → Copy τ β}
    (h : Alike embed part larger) (hf : ∀ a, Alike embed (f a) (g a)) :
    Alike embed (part >>= f) (larger >>= g) := by
  intro w s
  have hlarger := h w s
  cases hpart : part (w, s) with
  | mk result reached =>
    rw [hpart] at hlarger
    cases result with
    | error stop => rw [bind_of_error hpart, bind_of_error hlarger]
    | ok a =>
      rw [bind_of_ok hpart, bind_of_ok hlarger]
      exact hf a reached.1 reached.2

variable (h : inner.Embeds outer embed)

include h

private theorem alike_pause (p : Pause) :
    Alike embed (Copy.pause inner p) (Copy.pause outer p) := by
  intro w s
  simp only [Copy.pause, Writer.polls_embed h]

private theorem alike_send (piece : ByteArray) :
    Alike embed (Copy.send inner piece) (Copy.send outer piece) := by
  intro w s
  simp only [Copy.send, Writer.send_embed h]

private theorem alike_write (p : Pause) (piece : ByteArray) :
    Alike embed (Copy.write inner p piece) (Copy.write outer p piece) := by
  intro w s
  by_cases hfailed : ∃ e, w.outcome? = some (.error e)
  · obtain ⟨e, hout⟩ := hfailed
    rw [write_of_failed hout, write_of_failed hout]
  · have hout : ∀ e, w.outcome? ≠ some (.error e) := fun e he => hfailed ⟨e, he⟩
    rw [write_of_unfailed hout, write_of_unfailed hout]
    exact (alike_pause h p).bind (fun _ => alike_send h piece) w.start s

private theorem alike_writeEach (pieces : List ByteArray) (pauses : Nat → Pause) :
    Alike embed (Copy.writeEach inner pieces pauses) (Copy.writeEach outer pieces pauses) := by
  induction pieces generalizing pauses with
  | nil => exact (alike_pause h _).bind fun _ _ _ => rfl
  | cons piece rest ih =>
    refine (alike_pause h _).bind fun _ => (alike_write h _ piece).bind fun size => ?_
    exact (ih _).bind fun _ _ _ => rfl

private theorem alike_run (pauses : Nat → Pause) (source : Source) :
    Alike embed (Copy.run inner pauses source) (Copy.run outer pauses source) := by
  refine (alike_writeEach h source.pieces pauses).bind fun size => ?_
  cases source.failure <;> exact fun _ _ => rfl

theorem transfer_embed (schedule : Schedule) (w : Writer) (source : Source) (s : σ) :
    transfer outer schedule w source (embed s) =
      ((transfer inner schedule w source s).1, embed (transfer inner schedule w source s).2) := by
  unfold transfer
  rw [alike_run h]
  rcases Copy.run inner schedule.copying source (w, s) with ⟨_ | size, w, t⟩
  · simp only [Writer.polls_embed h, Writer.close_embed h]
  · simp only [Writer.polls_embed h, Writer.close_embed h]
    rcases Writer.close inner _ _ with ⟨_ | _, u⟩ <;> rfl

end Embedded

end BlobStore.Cli.Put
