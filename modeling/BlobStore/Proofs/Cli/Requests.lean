import BlobStore.Fleet
import BlobStore.Proofs.Cli.Kept
import BlobStore.Proofs.Cli.Output

/-!
# Where the requests of a command go

A command makes requests to the buckets that its paths lead to and to no others, and what it asks of
a bucket is about that bucket.
-/

namespace BlobStore.Cli

variable {σ : Type}

/-- A path names a target in the bucket. -/
def Reaches (config : ConfigFile) (path bucket : String) : Prop :=
  ∃ target location, Target.parse path = .ok target ∧ locate config target = .ok location ∧
    location.bucket = bucket

/-- Buckets that note down their requests, some of which come to grief. -/
def recording (serve : Service σ) (plan : Mishaps) (fresh : σ) (host : Host) :
    Setting (Fleet (Noted σ)) :=
  { toHost := host
    connect := Fleet.connect (serve.noted plan) ⟨fresh, []⟩ }

/-- The requests to a bucket, with their answers. -/
def eventsOf (fleet : Fleet (Noted σ)) (bucket : String) : List Event :=
  (fleet.get? bucket).elim [] (·.events)

private theorem eventsOf_insert (fleet : Fleet (Noted σ)) (name other : String) (x : Noted σ) :
    eventsOf (fleet.insert name x) other = if other = name then x.events else eventsOf fleet other := by
  rw [eventsOf, KeyMap.get?_insert]
  split <;> rfl

private theorem events_getD (fleet : Fleet (Noted σ)) (name : String) (fresh : σ) :
    ((fleet.get? name).getD ⟨fresh, []⟩).events = eventsOf fleet name := by
  unfold eventsOf
  cases fleet.get? name <;> rfl

/-- What has been asked since then is about the bucket that was asked, and a path leads there. -/
def Sent (config : ConfigFile) (paths : List String) (before after : Fleet (Noted σ)) : Prop :=
  ∀ bucket, ∃ new, eventsOf after bucket = eventsOf before bucket ++ new ∧
    ∀ e ∈ new, e.request.bucket = bucket ∧ ∃ path ∈ paths, Reaches config path bucket

variable {config : ConfigFile} {before after : Fleet (Noted σ)}

theorem Sent.refl (config : ConfigFile) (paths : List String) (fleet : Fleet (Noted σ)) :
    Sent config paths fleet fleet :=
  fun _ => ⟨[], (List.append_nil _).symm, List.forall_mem_nil _⟩

theorem Sent.insert (h : Sent config paths before after) {name : String} {x : Noted σ}
    {new : List Event} (hx : x.events = eventsOf after name ++ new)
    (hnew : ∀ e ∈ new, e.request.bucket = name ∧ ∃ path ∈ paths, Reaches config path name) :
    Sent config paths before (after.insert name x) := by
  intro bucket
  obtain ⟨earlier, hearlier, habout⟩ := h bucket
  by_cases hname : bucket = name
  · subst hname
    refine ⟨earlier ++ new, ?_, List.forall_mem_append.mpr ⟨habout, hnew⟩⟩
    rw [eventsOf_insert, if_pos rfl, hx, hearlier, List.append_assoc]
  · refine ⟨earlier, ?_, habout⟩
    rw [eventsOf_insert, if_neg hname, hearlier]

private theorem minds_recording (serve : Service σ) (plan : Mishaps) (fresh : σ) (host : Host)
    (style : Style) (paths : List String) (d : Desk (Fleet (Noted σ))) :
    Minds (recording serve plan fresh host) style paths fun e =>
      (paths ≠ [] → e.config = d.config) ∧ Sent d.config paths d.services e.services where
  written := id
  complained := id
  opened := by
    rintro path target location e hpath hparse hlocate ⟨hconfig, hsent⟩
    have hname := bucket_of_locate hlocate
    have hreaches : ∃ path ∈ paths, Reaches d.config path location.bucket := by
      rw [hconfig (List.ne_nil_of_mem hpath)] at hlocate
      exact ⟨path, hpath, target, location, hparse, hlocate, rfl⟩
    have hconnect : (recording serve plan fresh host).connect location e.services =
        (.ok ⟨location.bucket, Fleet.serve (serve.noted plan) ⟨fresh, []⟩ location.bucket⟩,
          e.services.insert location.bucket ((e.services.get? location.bucket).getD ⟨fresh, []⟩)) := by
      simp only [recording, Fleet.connect, Bucket.open?, hname, Bool.false_eq_true, if_false]
    have hsame : ((e.services.get? location.bucket).getD ⟨fresh, []⟩).events =
        eventsOf e.services location.bucket ++ [] := by
      rw [events_getD, List.append_nil]
    rw [hconnect]
    refine ⟨⟨hconfig, hsent.insert hsame (List.forall_mem_nil _)⟩, ?_⟩
    rintro b hb
    obtain rfl := Except.ok.inj hb
    rintro r e' hr ⟨hconfig', hsent'⟩
    let x := (e'.services.get? location.bucket).getD ⟨fresh, []⟩
    have hone : (serve.noted plan r x).2.events =
        eventsOf e'.services location.bucket ++ [⟨r, (serve.noted plan r x).1⟩] := by
      rw [Service.events_noted, events_getD]
    exact ⟨hconfig', hsent'.insert hone (List.forall_mem_singleton.mpr ⟨hr, hreaches⟩)⟩

/-- Whatever the services answer, what a command asks of a bucket is about that bucket, and one of
its paths leads there. -/
theorem run_sent (serve : Service σ) (plan : Mishaps) (fresh : σ) (host : Host) (colors : Bool)
    (i : Invocation) (d : Desk (Fleet (Noted σ))) :
    Sent d.config i.command.paths d.services
      (i.run (recording serve plan fresh host) colors d).2.services := by
  cases hload : d.config.load with
  | error e =>
    rw [Invocation.run_of_unloaded _ colors i hload]
    exact .refl _ _ _
  | ok config =>
    have hminds := minds_recording serve plan fresh host (i.styleWith colors config)
      i.command.paths d
    have hkeeps := keeps_perform config.defaults hminds
      fun hnil _ _ hd => ⟨fun hne => absurd hnil hne, hd.2⟩
    rw [Invocation.run_of_load _ colors i hload, desk_run]
    exact (hkeeps d ⟨fun _ => rfl, .refl _ _ _⟩).1.2

end BlobStore.Cli
