import BlobStore.Proofs.Bytes.Hex
import BlobStore.Proofs.Cli.Output
import BlobStore.Proofs.Cli.Opening
import BlobStore.Proofs.Cli.Summary
import BlobStore.Proofs.Listing.Paging
import BlobStore.Proofs.Memory.Tags

/-!
# Paging by hand

A listing that is printed page by page, each page by a run of the program that is given the token
printed by the run before, is the listing that one run prints of all pages. Between two runs a token
is a text of hexadecimal digits, which is read as the bytes that it was written for.
-/

namespace BlobStore

section Embedded

variable {σ τ : Type} {inner : Service σ} {outer : Service τ} {embed : σ → τ}

private theorem Bucket.request_embed (h : inner.Embeds outer embed) (name : String) (r : Request)
    (s : σ) :
    (Bucket.mk name outer).request r (embed s) =
      (((Bucket.mk name inner).request r s).1, embed ((Bucket.mk name inner).request r s).2) := by
  unfold request
  dsimp only
  rw [h]
  rcases inner r s with ⟨_ | _, t⟩ <;> rfl

private theorem Bucket.listPage_embed (h : inner.Embeds outer embed) (name : String)
    (o : ListOptions) (s : σ) :
    (Bucket.mk name outer).listPage o pure (embed s) =
      (((Bucket.mk name inner).listPage o pure s).1,
        embed ((Bucket.mk name inner).listPage o pure s).2) := by
  cases hquery : o.query name with
  | error e =>
    unfold listPage
    rw [hquery]
    rfl
  | ok query =>
    have hrequest := request_embed h name (.list query) s
    rw [listPage_of_query (b := ⟨name, outer⟩) hquery,
      listPage_of_query (b := ⟨name, inner⟩) hquery]
    generalize hreached : (Bucket.mk name inner).request (.list query) s = reached at hrequest ⊢
    obtain ⟨result, t⟩ := reached
    cases result with
    | error e => rw [bind_of_error hrequest, bind_of_error hreached]
    | ok listed =>
      rw [bind_of_ok hrequest, bind_of_ok hreached]
      rfl

private theorem ListCursor.collect_embed (h : inner.Embeds outer embed) (name : String)
    (limit : Nat)
    (c : ListCursor) (s : σ) :
    c.collect ⟨name, outer⟩ pure limit (embed s) =
      ((c.collect ⟨name, inner⟩ pure limit s).1, embed (c.collect ⟨name, inner⟩ pure limit s).2) := by
  induction limit generalizing c s with
  | zero =>
    unfold collect
    split <;> rfl
  | succ limit ih =>
    unfold collect fetch
    split
    · rfl
    · simp only [Bucket.listPage_embed h]
      rcases (Bucket.mk name inner).listPage c.options pure s with ⟨_ | page, t⟩
      · rfl
      · simp only [ih]
        rcases collect ⟨name, inner⟩ pure limit (c.accept page) t with ⟨_ | _, u⟩ <;> rfl

theorem Cli.Browse.entries_embed (h : inner.Embeds outer embed) (name : String) (pageLimit : Nat)
    (all : Bool) (o : ListOptions) (s : σ) :
    entries ⟨name, outer⟩ pageLimit all o (embed s) =
      ((entries ⟨name, inner⟩ pageLimit all o s).1,
        embed (entries ⟨name, inner⟩ pageLimit all o s).2) := by
  unfold entries
  split
  · simp only [ListCursor.collect_embed h]
    rcases ListCursor.collect ⟨name, inner⟩ pure pageLimit (.new o) s with ⟨_ | _, t⟩ <;> rfl
  · simp only [Bucket.listPage_embed h]
    rcases (Bucket.mk name inner).listPage o pure s with ⟨_ | _, t⟩ <;> rfl

end Embedded

namespace Cli.Browse

/-- Where keys are cut to make directories. -/
def cut (a : ListArguments) : String := if a.recursive then "" else a.delimiter

def pageSize (defaults : Defaults) (a : ListArguments) : Nat :=
  a.pageSize.getD defaults.pageSize.toNat

/-- The target leads to a bucket that holds the memory `m`. -/
structure LeadsTo (target : Target) (location : Location) (config : Config) (m : Memory)
    (d : Desk (Fleet (Noted Memory))) : Prop where
  loads : d.config.load = .ok config
  locates : locate d.config target = .ok location
  state_eq : (recordOf d.services location.bucket).state = m

section Runs

variable {host : Host}
  {colors : Bool} {style : Style} {a : ListArguments} {target : Target} {location : Location}
  {config : Config} {m : Memory} {d : Desk (Fleet (Noted Memory))}

theorem resolve_of_open {σ : Type} {s : Setting σ} {d d' : Desk σ} {b : Bucket (Desk σ)} (style : Style)
    {path : String} (hparse : Target.parse path = .ok target)
    (hopen : openBucket s target d = (.ok b, d')) :
    resolve s style path d = (.ok (target, b), d') :=
  (bind_of_ok (accept_of_ok "Invalid target" hparse d) _).trans <|
    bind_of_ok (attempt_of_ok "Failed to open bucket" hopen) _

theorem LeadsTo.blank (h : LeadsTo target location config m d) :
    LeadsTo target location config m { d with terminal := .blank } :=
  ⟨h.loads, h.locates, h.state_eq⟩

theorem LeadsTo.extended (h : LeadsTo target location config m d) (events : List Event)
    (terminal : Terminal) :
    LeadsTo target location config m
      { extended d location.bucket ⟨m, events⟩ with terminal := terminal } where
  loads := h.loads
  locates := h.locates
  state_eq := by rw [recordOf_extended, if_pos rfl]

theorem execute_eq {σ : Type} {s : Setting σ} {defaults : Defaults} {b : Bucket (Desk σ)}
    {d d' d'' : Desk σ} {token : Option ByteArray} {listed : List ListEntry} {next : Option String}
    (htoken : a.pageToken.mapM token? = .ok token)
    (hresolve : resolve s style a.path d = (.ok (target, b), d'))
    (hentries : entries b s.pageLimit a.all (options defaults a target token) d' =
      (.ok (listed, next), d'')) :
    execute s style defaults a d = conclude style s.build listed next a.summarize d'' :=
  (bind_of_ok (accept_of_ok "Invalid page token" htoken d) _).trans <|
    (bind_of_ok hresolve _).trans <| bind_of_ok (attempt_of_ok "Failed to list objects" hentries) _

end Runs

end Cli.Browse

end BlobStore
