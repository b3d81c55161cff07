import BlobStore.Proofs.Writer.Sequential
import BlobStore.Proofs.Writer.Withdrawal

/-!
# Writers that have ended

When the task of a writer has ended, everything that was granted is stored as one object or nothing
is stored, whatever the schedule was. A writer that has been canceled before it is closed does not
end well.
-/

namespace BlobStore

namespace Upload

variable {plan : Mishaps} {m t : Memory} {object : NewObject} {p : Nat}

end Upload

namespace Writer

open Upload

variable {plan : Mishaps} {m : Memory} {object : NewObject} {p : Nat}

namespace Session

variable {buffers : List ByteArray} {x : Session (Noted Memory)}

end Session

variable {σ : Type} {serve : Service σ} {w : Writer}

/-- A writer that has been canceled before its upload has ended well. -/
structure IsGivenUp (w : Writer) : Prop where
  canceled : w.canceled = true
  parked : w.IsParked
  unstored : w.outcome? ≠ some (.ok ())

namespace IsGivenUp

theorem poll (h : w.IsGivenUp) (serve : Service σ) (s : σ) : (w.poll serve s).1.IsGivenUp where
  canceled := (canceled_poll w s).trans h.canceled
  parked := h.parked.poll serve s
  unstored := by
    cases ht : w.task with
    | running =>
      rw [outcome?, poll_of_canceled h.canceled h.parked ht]
      intro hok
      cases hok
    | idle | ended =>
      rw [Writer.poll, ht]
      exact h.unstored

theorem polls (h : w.IsGivenUp) (serve : Service σ) (n : Nat) (s : σ) :
    (w.polls serve n s).1.IsGivenUp := by
  induction n generalizing w s with
  | zero => exact h
  | succ n ih => exact ih (h.poll serve s) (w.poll serve s).2

theorem closed (h : w.IsGivenUp) : w.start.endBody.IsGivenUp where
  canceled := (canceled_endBody _).trans ((canceled_start w).trans h.canceled)
  parked := h.parked.start.endBody
  unstored := by
    rw [outcome?_endBody, outcome?_start]
    exact h.unstored

end IsGivenUp

end Writer

end BlobStore
