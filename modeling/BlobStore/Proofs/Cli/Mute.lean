import BlobStore.Proofs.Cli.Kept

/-!
# Steps that write nothing

Most of what a command does leaves the standard output alone: errors are shown elsewhere, and what
is asked of a service is not shown at all.
-/

namespace BlobStore.Cli

variable {σ ε α β : Type}

/-- Nothing is written to the standard output, and what is given has a property. -/
def Mute (x : ExceptT ε (StateM (Desk σ)) α) (P : α → Prop) : Prop :=
  ∀ d, (x d).2.terminal.out = d.terminal.out ∧ ∀ a, (x d).1 = .ok a → P a

private theorem mute_iff {x : ExceptT ε (StateM (Desk σ)) α} {P : α → Prop} :
    Mute x P ↔ ∀ out, Keeps (fun d : Desk σ => d.terminal.out = out) x P := by
  constructor
  · rintro h _ d rfl
    exact h d
  · intro h d
    exact h _ d rfl

namespace Mute

variable {x : ExceptT ε (StateM (Desk σ)) α} {P P' : α → Prop}

theorem pure {a : α} (h : P a) : Mute (Pure.pure a : ExceptT ε (StateM (Desk σ)) α) P :=
  mute_iff.mpr fun _ => .pure h

theorem bind {f : α → ExceptT ε (StateM (Desk σ)) β} {Q : β → Prop} (h : Mute x P)
    (hf : ∀ a, P a → Mute (f a) Q) : Mute (x >>= f) Q :=
  mute_iff.mpr fun out => (mute_iff.mp h out).bind fun a ha => mute_iff.mp (hf a ha) out

end Mute

theorem out_error (style : Style) (message : String) (t : Terminal) :
    (style.error message t).out = t.out := by
  unfold Style.error
  split <;> rfl

theorem mute_fail (style : Style) (context : String) (e : Error) (P : α → Prop) :
    Mute (Step.fail style context e : Step σ α) P :=
  fun d => ⟨out_error style _ d.terminal, nofun⟩

private theorem mute_complaint (style : Style) (message : String) :
    Mute (Step.display (style.error message) : Step σ Unit) fun _ => True :=
  fun d => ⟨out_error style message d.terminal, fun _ _ => trivial⟩

theorem mute_accept (style : Style) (context : String) (r : Except Error α) :
    Mute (Step.accept style context r : Step σ α) fun a => r = .ok a := by
  cases r with
  | ok a => exact .pure rfl
  | error e => exact mute_fail style context e _

private theorem mute_throw (e : ε) (P : α → Prop) :
    Mute (throw e : ExceptT ε (StateM (Desk σ)) α) P :=
  mute_iff.mpr fun _ => .throw e

theorem mute_attempt {action : Action (Desk σ) α} {P : α → Prop} (style : Style) (context : String)
    (h : Mute action P) : Mute (Step.attempt style context action) P := by
  intro d
  have hd := h d
  unfold Step.attempt
  generalize action d = reached at hd ⊢
  obtain ⟨_ | a, d'⟩ := reached
  · exact ⟨((mute_fail style context _ P d').1).trans hd.1, nofun⟩
  · obtain ⟨hout, hgives⟩ := hd
    exact ⟨hout, fun a' ha => hgives a' (congrArg Except.ok (Except.ok.inj ha))⟩

/-! ## Requests -/

section Requests

variable (b : Bucket σ)

/-- A service does not get to see the terminal. -/
theorem keeps_out (out : ByteArray) : (deskBucket b).serve.Keeps (deskBucket b).name
    fun d => d.terminal.out = out :=
  fun _ _ _ h => h

theorem mute_attributes (key : String) : Mute ((deskBucket b).attributes key) fun _ => True :=
  mute_iff.mpr fun out => Bucket.keeps_attributes (keeps_out b out) key

theorem mute_delete (key : String) : Mute ((deskBucket b).delete key) fun _ => True :=
  mute_iff.mpr fun out => Bucket.keeps_delete (keeps_out b out) key

theorem mute_signedUrl (key : String) (expiry : Duration) :
    Mute ((deskBucket b).signedUrl key expiry) fun _ => True :=
  mute_iff.mpr fun out => Bucket.keeps_signedUrl (keeps_out b out) key expiry

theorem mute_transfer (schedule : Schedule) (w : Writer) (source : Source) :
    Mute (liftM (Put.transfer (deskBucket b).serve schedule w source) : Step σ (Except Put.Stop Nat))
      fun _ => True := by
  intro d
  have hembeds : b.serve.Embeds (deskBucket b).serve fun services => { d with services } :=
    fun _ _ => rfl
  have hrun := Put.transfer_embed hembeds schedule w source d.services
  exact ⟨congrArg (·.2.terminal.out) hrun, fun _ _ => trivial⟩

theorem mute_entries (pageLimit : Nat) (all : Bool) (o : ListOptions) :
    Mute (Browse.entries (deskBucket b) pageLimit all o) fun _ => True :=
  mute_iff.mpr fun out => keeps_entries (keeps_out b out) pageLimit all o

end Requests

/-! ## Targets -/

theorem mute_openBucket (s : Setting σ) (target : Target) :
    Mute (openBucket s target) fun b => ∃ inner, b = deskBucket inner := by
  have hservices : ∀ location, Mute (onServices (s.connect location)) fun _ => True :=
    fun location d => ⟨rfl, fun _ _ => trivial⟩
  intro d
  unfold openBucket
  cases locate d.config target with
  | error e => exact ⟨rfl, nofun⟩
  | ok location => exact (hservices location).bind (fun inner _ => .pure ⟨inner, rfl⟩) d

theorem mute_resolve (s : Setting σ) (style : Style) (path : String) :
    Mute (resolve s style path) fun r => ∃ target b, r = (target, deskBucket b) := by
  unfold resolve
  refine (mute_accept style _ _).bind fun target _ => ?_
  refine (mute_attempt style _ (mute_openBucket s target)).bind fun bucket hb => ?_
  obtain ⟨b, rfl⟩ := hb
  exact .pure ⟨target, b, rfl⟩

theorem mute_resolveObject (s : Setting σ) (style : Style) (path : String) :
    Mute (resolveObject s style path) fun r => ∃ target b, r = (target, deskBucket b) := by
  unfold resolveObject
  refine (mute_accept style _ _).bind fun target _ => ?_
  have hopen := mute_attempt style "Failed to open bucket" (mute_openBucket s target)
  split
  · refine (mute_complaint style _).bind fun _ _ => ?_
    exact (mute_throw (Outcome.exited .usage) fun _ => False).bind fun _ h => h.elim
  · refine hopen.bind fun bucket hb => ?_
    obtain ⟨b, rfl⟩ := hb
    exact .pure ⟨target, b, rfl⟩

theorem mute_source (s : Setting σ) (style : Style) (a : PutArguments) :
    Mute (Put.source s style a) fun _ => True := by
  unfold Put.source
  cases a.file with
  | none => exact .pure trivial
  | some path =>
    dsimp only
    cases s.openFile path with
    | error e => exact (mute_complaint style _).bind fun _ _ => mute_throw _ _
    | ok file => exact (mute_accept style _ _).bind fun _ _ => .pure trivial

theorem mute_onConfig (action : Action ConfigFile α) :
    Mute (onConfig action : Action (Desk σ) α) fun _ => True :=
  fun _ => ⟨rfl, fun _ _ => trivial⟩

end BlobStore.Cli
