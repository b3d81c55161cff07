import BlobStore.Bucket
import BlobStore.Proofs.Action
import BlobStore.Proofs.Upload.Moves

/-!
# Requests about a bucket

Whatever is done with a bucket, the requests that are made for it are about that bucket. So what is
kept by the requests about a bucket is kept by each of its operations, and by each writer of an object
in it.
-/

namespace BlobStore

variable {ε σ α β : Type} {Inv : σ → Prop}

/-- What is kept by all requests about a bucket. -/
def Service.Keeps (serve : Service σ) (bucket : String) (Inv : σ → Prop) : Prop :=
  ∀ r s, r.bucket = bucket → Inv s → Inv (serve r s).2

variable {serve : Service σ} {bucket : String}

namespace Upload

private theorem Asks.bucket_eq {object : NewObject} {p : Nat} {stage : Stage} {r : Request}
    {next : Answer r → Stage} (h : Asks object p stage r next) :
    r.bucket = object.address.bucket := by
  cases h <;> rfl

private theorem object_feed (u : Upload) (chunk : Option ByteArray) :
    (u.feed chunk).object = u.object := by
  obtain ⟨object, p, stage⟩ := u
  cases stage <;> rfl

private theorem object_cancel (u : Upload) : u.cancel.object = u.object := by
  obtain ⟨object, p, stage⟩ := u
  cases stage <;> rfl

private theorem settle_about (h : serve.Keeps bucket Inv) {u : Upload}
    (hu : u.object.address.bucket = bucket) {s : σ} (hs : Inv s) :
    (u.settle serve s).1.object.address.bucket = bucket ∧ Inv (u.settle serve s).2 := by
  obtain ⟨object, p, stage⟩ := u
  obtain ⟨last, t, hsettle, ht, -⟩ := settle_keeps (P := fun _ s => Inv s)
    (fun ha hs => h _ _ (ha.bucket_eq.trans hu) hs) stage s hs
  rw [hsettle]
  exact ⟨hu, ht⟩

end Upload

namespace Writer

def Task.IsAbout (bucket : String) : Task → Prop
  | .running upload _ _ => upload.object.address.bucket = bucket
  | _ => True

/-- The object that is written is in the bucket. -/
structure IsAbout (bucket : String) (w : Writer) : Prop where
  object : w.object.address.bucket = bucket
  task : w.task.IsAbout bucket

private theorem isAbout_rest {u : Upload} (hu : u.object.address.bucket = bucket)
    (queue : List ByteArray) (bodyEnded : Bool) : (rest u queue bodyEnded).IsAbout bucket := by
  unfold rest
  split
  · exact hu
  · trivial

private theorem drain_about (h : serve.Keeps bucket Inv) {u : Upload}
    (hu : u.object.address.bucket = bucket)
    (bodyEnded : Bool) (queue : List ByteArray) {s : σ} (hs : Inv s) :
    (drain serve u bodyEnded queue s).1.IsAbout bucket ∧ Inv (drain serve u bodyEnded queue s).2 := by
  induction queue generalizing u s with
  | nil =>
    unfold drain
    split
    · obtain ⟨hsettle, ht⟩ := Upload.settle_about h ((u.object_feed none).symm ▸ hu) hs
      exact ⟨isAbout_rest hsettle [] true, ht⟩
    · exact ⟨isAbout_rest hu [] bodyEnded, hs⟩
  | cons chunk queue ih =>
    unfold drain
    split
    · obtain ⟨hsettle, ht⟩ := Upload.settle_about h ((u.object_feed (some chunk)).symm ▸ hu) hs
      exact ih hsettle ht
    · exact ⟨isAbout_rest hu (chunk :: queue) bodyEnded, hs⟩

namespace IsAbout

variable {w w' : Writer}

theorem start (hw : w.IsAbout bucket) : w.start.IsAbout bucket := by
  obtain ⟨object, p, canceled, task⟩ := w
  cases task with
  | idle => exact ⟨hw.object, hw.object⟩
  | running | ended => exact hw

theorem cancel (hw : w.IsAbout bucket) : w.cancel.IsAbout bucket := ⟨hw.object, hw.task⟩

theorem endBody (hw : w.IsAbout bucket) : w.endBody.IsAbout bucket := by
  obtain ⟨object, p, canceled, task⟩ := w
  cases task <;> exact ⟨hw.object, hw.task⟩

theorem push? (hw : w.IsAbout bucket) {chunk : ByteArray} (h : w.push? chunk = some w') :
    w'.IsAbout bucket := by
  obtain ⟨object, p, canceled, task⟩ := w
  cases task with
  | running upload queue bodyEnded =>
    unfold Writer.push? at h
    dsimp only at h
    split at h
    · obtain rfl := Option.some.inj h
      exact ⟨hw.object, hw.task⟩
    · cases h
  | idle | ended => cases h

theorem poll (hw : w.IsAbout bucket) (h : serve.Keeps bucket Inv) {s : σ} (hs : Inv s) :
    (w.poll serve s).1.IsAbout bucket ∧ Inv (w.poll serve s).2 := by
  obtain ⟨object, p, canceled, task⟩ := w
  cases task with
  | idle | ended => exact ⟨hw, hs⟩
  | running upload queue bodyEnded =>
    have hu : upload.object.address.bucket = bucket := hw.task
    cases canceled with
    | true =>
      obtain ⟨hsettle, ht⟩ := Upload.settle_about h (upload.object_cancel.symm ▸ hu) hs
      exact ⟨⟨hw.object, isAbout_rest hsettle queue bodyEnded⟩, ht⟩
    | false =>
      obtain ⟨hdrain, ht⟩ := drain_about h hu bodyEnded queue hs
      exact ⟨⟨hw.object, hdrain⟩, ht⟩

theorem polls (hw : w.IsAbout bucket) (h : serve.Keeps bucket Inv) (n : Nat) {s : σ} (hs : Inv s) :
    (w.polls serve n s).1.IsAbout bucket ∧ Inv (w.polls serve n s).2 := by
  induction n generalizing w s with
  | zero => exact ⟨hw, hs⟩
  | succ n ih =>
    obtain ⟨hpoll, ht⟩ := hw.poll h hs
    exact ih hpoll ht

theorem send (hw : w.IsAbout bucket) (h : serve.Keeps bucket Inv) (chunk : ByteArray) {s : σ}
    (hs : Inv s) :
    (w.send serve chunk s).1.2.IsAbout bucket ∧ Inv (w.send serve chunk s).2 := by
  unfold Writer.send
  split
  · rename_i hpush
    exact ⟨hw.push? hpush, hs⟩
  · obtain ⟨hpoll, ht⟩ := hw.poll h hs
    dsimp only
    split
    · rename_i hpush
      exact ⟨hpoll.push? hpush, ht⟩
    · split <;> exact ⟨hpoll, ht⟩

theorem close (hw : w.IsAbout bucket) (h : serve.Keeps bucket Inv) {s : σ} (hs : Inv s) :
    Inv (w.close serve s).2 := by
  have hpoll := (hw.start.endBody.poll h hs).2
  unfold Writer.close
  dsimp only
  split <;> exact hpoll

end IsAbout

end Writer

/-! ## Operations -/

private theorem ListOptions.bucket_of_query {o : ListOptions} {query : ListQuery}
    (h : o.query bucket = .ok query) : query.bucket = bucket := by
  unfold ListOptions.query at h
  dsimp only at h
  cases htoken : o.pageToken.filter (!·.isEmpty) with
  | none =>
    rw [htoken] at h
    obtain rfl := Except.ok.inj h
    rfl
  | some bytes =>
    rw [htoken] at h
    dsimp only at h
    split at h
    · obtain rfl := Except.ok.inj h
      rfl
    · cases h

namespace Bucket

variable {b : Bucket σ}

private theorem keeps_request (h : b.serve.Keeps b.name Inv) {r : Request}
    (hr : r.bucket = b.name) :
    Keeps Inv (b.request r) fun _ => True := by
  intro s hs
  have hserve := h r s hr hs
  unfold request
  generalize b.serve r s = reached at hserve ⊢
  obtain ⟨_ | _, t⟩ := reached
  · exact ⟨hserve, nofun⟩
  · exact ⟨hserve, fun _ _ => trivial⟩

variable (h : b.serve.Keeps b.name Inv)

include h

theorem keeps_attributes (key : String) : Keeps Inv (b.attributes key) fun _ => True :=
  (keeps_request h rfl).bind fun _ _ => .pure trivial

theorem keeps_delete (key : String) : Keeps Inv (b.delete key) fun _ => True :=
  (keeps_attributes h key).bind fun _ _ => keeps_request h rfl

theorem keeps_signedUrl (key : String) (expiry : Duration) :
    Keeps Inv (b.signedUrl key expiry) fun _ => True := by
  unfold signedUrl
  exact .ite (.throw _) (keeps_request h rfl)

theorem keeps_readRange (key : String) (offset : Nat) (length : Option Nat) :
    Keeps Inv (b.readRange key offset length pure) fun _ => True := by
  unfold readRange
  have hadjust : Keeps Inv (fun s => (.ok (⟨b.address key, rangeHeader offset length, none, none,
      none, none⟩ : GetQuery), s) : Action σ GetQuery) fun query => query.address.bucket = b.name :=
    .settled fun query hquery => Except.ok.inj hquery ▸ rfl
  refine hadjust.bind fun query hquery => ?_
  refine (keeps_request (r := .get query) h hquery).bind fun answer _ => ?_
  dsimp only
  refine .ite ?_ (.pure trivial)
  exact (Keeps.throw (P := fun _ => False) _).bind fun _ hnever => hnever.elim

theorem keeps_listPage (o : ListOptions) : Keeps Inv (b.listPage o pure) fun _ => True := by
  have hquery : Keeps Inv (fun s => (o.query b.name, s) : Action σ ListQuery)
      fun query => query.bucket = b.name :=
    .settled fun _ => ListOptions.bucket_of_query
  have hadjust : ∀ query : ListQuery, query.bucket = b.name →
      Keeps Inv (fun s => (.ok query, s) : Action σ ListQuery) fun query => query.bucket = b.name :=
    fun query hquery => .settled fun _ h => Except.ok.inj h ▸ hquery
  unfold listPage
  refine hquery.bind fun query hbucket => (hadjust query hbucket).bind fun query hbucket => ?_
  exact (keeps_request (r := .list query) h hbucket).bind fun _ _ => .pure trivial

end Bucket

namespace ListCursor

variable {b : Bucket σ} (h : b.serve.Keeps b.name Inv)

include h

private theorem fetch_about (c : ListCursor) {s : σ} (hs : Inv s) : Inv (c.fetch b pure s).2 := by
  have hpage := (Bucket.keeps_listPage h c.options s hs).1
  unfold fetch
  generalize b.listPage c.options pure s = reached at hpage ⊢
  obtain ⟨_ | _, t⟩ := reached
  · exact hpage
  · exact hpage

theorem keeps_collect (limit : Nat) (c : ListCursor) :
    Keeps Inv (collect b pure limit c) fun _ => True := by
  intro s hs
  refine ⟨?_, fun _ _ => trivial⟩
  induction limit generalizing c s with
  | zero =>
    unfold collect
    split <;> exact hs
  | succ limit ih =>
    have hfetch := fetch_about h c hs
    unfold collect
    split
    · exact hs
    · generalize c.fetch b pure s = reached at hfetch ⊢
      obtain ⟨_ | after, t⟩ := reached
      · exact hfetch
      · have hrest := ih after t hfetch
        dsimp only
        generalize collect b pure limit after t = reached at hrest ⊢
        obtain ⟨_ | _, u⟩ := reached
        · exact hrest
        · exact hrest

theorem fold_about {τ : Type} {step : τ → ListEntry → StateM σ τ}
    (hstep : ∀ t e s, Inv s → Inv (step t e s).2) (limit : Nat) (c : ListCursor) (t : τ) {s : σ}
    (hs : Inv s) : Inv (fold b pure step limit c t s).2 := by
  have hentries : ∀ (entries : List ListEntry) (t : τ) (s : σ), Inv s →
      Inv (entries.foldlM step t s).2 := fun entries t s =>
    foldlM_leads (fun _ x y => Inv x.2 → Inv y.2) (fun _ => id) (fun e t s => hstep t e s)
      (fun hxy hyz hx => hyz (hxy hx)) entries t s
  induction limit generalizing c t s with
  | zero =>
    have hbuffered := hentries c.buffered t s hs
    unfold fold
    generalize c.buffered.foldlM step t s = reached at hbuffered ⊢
    obtain ⟨t', s'⟩ := reached
    dsimp only
    rw [ite_self]
    exact hbuffered
  | succ limit ih =>
    have hbuffered := hentries c.buffered t s hs
    unfold fold
    generalize c.buffered.foldlM step t s = reached at hbuffered ⊢
    obtain ⟨t', s'⟩ := reached
    dsimp only
    split
    · exact hbuffered
    · have hfetch := fetch_about h c hbuffered
      generalize c.fetch b pure s' = reached at hfetch ⊢
      obtain ⟨_ | after, s''⟩ := reached
      · exact hfetch
      · exact ih after t' hfetch

end ListCursor

end BlobStore
