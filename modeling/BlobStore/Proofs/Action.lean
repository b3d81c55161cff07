import BlobStore.Bucket

/-!
# Actions one after the other

An action that may fail and changes a state goes on with what the one before it has given, or stops
where that one has failed. The smallest actions are the requests.
-/

namespace BlobStore

variable {ε σ α β : Type} {x : ExceptT ε (StateM σ) α} {s t : σ}

theorem bind_of_ok {a : α} (h : x s = (.ok a, t)) (f : α → ExceptT ε (StateM σ) β) :
    (x >>= f) s = f a t := by
  change (ExceptT.bindCont f (x s).1) (x s).2 = f a t
  rw [h]
  rfl

theorem bind_of_error {e : ε} (h : x s = (.error e, t)) (f : α → ExceptT ε (StateM σ) β) :
    (x >>= f) s = (.error e, t) := by
  change (ExceptT.bindCont f (x s).1) (x s).2 = (.error e, t)
  rw [h]
  rfl

/-- The state keeps a property, and what is given has one. -/
def Keeps (Inv : σ → Prop) (x : ExceptT ε (StateM σ) α) (P : α → Prop) : Prop :=
  ∀ s, Inv s → Inv (x s).2 ∧ ∀ a, (x s).1 = .ok a → P a

namespace Keeps

variable {Inv : σ → Prop} {P P' : α → Prop}

theorem settled {r : Except ε α} (h : ∀ a, r = .ok a → P a) : Keeps Inv (fun s => (r, s)) P :=
  fun _ hs => ⟨hs, h⟩

theorem pure {a : α} (h : P a) : Keeps Inv (Pure.pure a : ExceptT ε (StateM σ) α) P :=
  settled fun _ ha => Except.ok.inj ha ▸ h

theorem lift {y : StateM σ α} (h : ∀ s, Inv s → Inv (y s).2) :
    Keeps Inv (liftM y : ExceptT ε (StateM σ) α) fun _ => True :=
  fun s hs => ⟨h s hs, fun _ _ => trivial⟩

theorem throw (e : ε) : Keeps Inv (MonadExcept.throw e : ExceptT ε (StateM σ) α) P :=
  settled nofun

theorem ite {c : Prop} [Decidable c] {y : ExceptT ε (StateM σ) α} (hx : Keeps Inv x P)
    (hy : Keeps Inv y P) : Keeps Inv (if c then x else y) P := by
  split
  · exact hx
  · exact hy

theorem bind {f : α → ExceptT ε (StateM σ) β} {Q : β → Prop} (h : Keeps Inv x P)
    (hf : ∀ a, P a → Keeps Inv (f a) Q) : Keeps Inv (x >>= f) Q := by
  intro s hs
  obtain ⟨ht, hgives⟩ := h s hs
  cases hx : x s with
  | mk result t =>
    rw [hx] at ht hgives
    cases result with
    | error e =>
      rw [bind_of_error hx]
      exact ⟨ht, nofun⟩
    | ok a =>
      rw [bind_of_ok hx]
      exact hf a (hgives a rfl) t ht

end Keeps

namespace Bucket

variable {b : Bucket σ} {r : Request}

theorem request_of_granted {answer : r.Reply} (h : b.serve r s = (.ok answer, t)) :
    b.request r s = (.ok answer, t) := by
  rw [request, h]

theorem request_of_refused {why : Fault} (h : b.serve r s = (.error why, t)) :
    b.request r s = (.error (.ofFault why), t) := by
  rw [request, h]

end Bucket

theorem foldlM_cons_apply {τ ι : Type} (step : τ → ι → StateM σ τ) (i : ι) (is : List ι) (t : τ) (s : σ) :
    (i :: is).foldlM step t s = is.foldlM step (step t i s).1 (step t i s).2 := by
  rw [List.foldlM_cons]
  rfl

theorem foldlM_leads {τ ι : Type} {step : τ → ι → StateM σ τ}
    (Leads : List ι → τ × σ → τ × σ → Prop) (hnil : ∀ x, Leads [] x x)
    (hstep : ∀ i t s, Leads [i] (t, s) (step t i s))
    (happend : ∀ {is js x y z}, Leads is x y → Leads js y z → Leads (is ++ js) x z)
    (is : List ι) (t : τ) (s : σ) : Leads is (t, s) (is.foldlM step t s) := by
  induction is generalizing t s with
  | nil => exact hnil (t, s)
  | cons i is ih =>
    have hrest := ih (step t i s).1 (step t i s).2
    rw [foldlM_cons_apply]
    exact happend (hstep i t s) hrest

end BlobStore
