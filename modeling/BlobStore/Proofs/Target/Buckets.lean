import BlobStore.Proofs.Cli.Requests
import BlobStore.Proofs.Target.Spelling
import BlobStore.Proofs.Url.Hosts

/-!
# The bucket that a target names

A target is cut by hand into the text that names a bucket, a key and a query, and the bucket is then
taken from a URL that is put together from the first and the last. The host of that URL may differ
from the text that named the bucket, and it is the host that requests go to.
-/

namespace BlobStore

namespace Target

/-- A target `scheme://bucket`, `scheme://bucket/key` or `scheme://bucket?query`, or with a query after
the key. The bucket is the text up to the first slash or question mark. -/
structure Names (path : String) (scheme bucket tail : List Char) : Prop where
  cut : Text.FirstAt "://".toList path.toList scheme (bucket ++ tail)
  slash : '/' ∉ bucket
  mark : '?' ∉ bucket
  tail : tail = [] ∨ tail.head? = some '/' ∨ tail.head? = some '?'

variable {path : String} {scheme bucket tail : List Char}

theorem Names.exists_parts (h : Names path scheme bucket tail) :
    ∃ key query, Parts (bucket ++ tail) bucket key query := by
  rcases h.tail with rfl | hslash | hquery
  · exact ⟨none, none, by simp, h.slash, h.mark, nofun⟩
  · obtain ⟨more, rfl⟩ := List.head?_eq_some_iff.mp hslash
    obtain ⟨key, query, rfl, hkey⟩ := Text.exists_led '?' more
    refine ⟨some key, query, by simp, h.slash, h.mark, ?_⟩
    intro k hk
    obtain rfl := Option.mem_some_iff.mp hk
    exact hkey
  · obtain ⟨query, rfl⟩ := List.head?_eq_some_iff.mp hquery
    exact ⟨none, some query, by simp, h.slash, h.mark, nofun⟩

private theorem url_of_parse (hnames : Names path scheme bucket tail) {target : Target}
    (h : parse path = .ok target) :
    ∃ query key, target = .url (bucketUrl scheme bucket query) key := by
  obtain ⟨key, query, hparts⟩ := hnames.exists_parts
  rw [parse_of_firstAt hnames.cut, parseUrl_of_parts hparts] at h
  split at h
  · cases h
  · split at h
    · cases h
    · exact ⟨query, _, (Except.ok.inj h).symm⟩

/-- The bucket that is acted on is the host of the URL of the bucket, and every request of a command
on the target goes there. It is the text that names the bucket just if a host of this spelling is
kept as it is written. -/
theorem bucket_of_names (hnames : Names path scheme bucket tail) {config : ConfigFile}
    {target : Target} {location : Location} (hparse : parse path = .ok target)
    (hlocate : Cli.locate config target = .ok location) :
    (∃ query key url, target = .url (bucketUrl scheme bucket query) key ∧
      Url.parse (bucketUrl scheme bucket query) = .ok url ∧ location.bucket = url.host) ∧
    (':' ∉ scheme → (location.bucket.toList = bucket ↔ Url.IsVerbatim bucket)) ∧
    ∀ {σ : Type} (serve : Service σ) (plan : Mishaps) (fresh : σ)
      (host : Cli.Host) (colors : Bool)
      (i : Cli.Invocation) (d : Cli.Desk (Fleet (Noted σ))),
      (∀ p ∈ i.command.paths, p = path) → d.config = config → ∀ name,
        ∃ new, Cli.eventsOf
            (i.run (Cli.recording serve plan fresh host) colors d).2.services
            name = Cli.eventsOf d.services name ++ new ∧
          ∀ e ∈ new, name = location.bucket ∧ e.request.bucket = location.bucket := by
  obtain ⟨query, key, rfl⟩ := url_of_parse hnames hparse
  obtain ⟨text, url, htext, hurl, hscheme, hbucket, -⟩ := Cli.host_of_locate hlocate
  obtain rfl : bucketUrl scheme bucket query = text := Except.ok.inj htext
  have hquery : (query.map ('?' :: ·)).getD [] = [] ∨
      ((query.map ('?' :: ·)).getD []).head? = some '?' := by
    cases query with
    | none => exact .inl rfl
    | some query => exact .inr rfl
  have hkind : Url.schemeKind url.scheme = .other := by
    rw [hscheme]
    decide
  refine ⟨⟨query, key, url, rfl, hurl, hbucket⟩, ?_, ?_⟩
  · intro hcolon
    rw [hbucket]
    exact Url.host_eq_iff hcolon hquery hkind hurl
  · intro σ serve plan fresh host colors i d hpaths hconfig name
    obtain ⟨new, hnew, habout⟩ :=
      Cli.run_sent serve plan fresh host colors i d name
    refine ⟨new, hnew, fun e he => ?_⟩
    obtain ⟨hrequest, p, hp, target, l, hparse', hlocate', rfl⟩ := habout e he
    obtain rfl := hpaths p hp
    obtain rfl := Except.ok.inj (hparse.symm.trans hparse')
    rw [hconfig] at hlocate'
    obtain rfl := Except.ok.inj (hlocate.symm.trans hlocate')
    exact ⟨rfl, hrequest⟩

theorem bucket_of_names_region :
    let path := "s3://bucket/key?region=eu-west-1"
    let location : Location := ⟨"bucket", some "eu-west-1", none, false, false⟩
    let i : Cli.Invocation := ⟨.plain, .remove ⟨[path], false, false⟩⟩
    let d : Cli.Desk (Fleet (Noted Memory)) := ⟨.absent, ∅, .blank⟩
    let s := Cli.recording Memory.serve .none Memory.empty .bare
    (∃ target, parse path = .ok target ∧ Cli.locate .absent target = .ok location) ∧
      (location.bucket.toList = "bucket".toList ↔ Url.IsVerbatim "bucket".toList) ∧
      ∀ name, ∃ new, Cli.eventsOf (i.run s false d).2.services name = [] ++ new ∧
        ∀ e ∈ new, name = "bucket" ∧ e.request.bucket = "bucket" := by
  intro path location i d s
  have hnames : Names path "s3".toList "bucket".toList "/key?region=eu-west-1".toList :=
    { cut := Text.firstAt_of_cutAtWord (by decide +kernel)
      slash := by decide +kernel
      mark := by decide +kernel
      tail := .inr (.inl (by decide +kernel)) }
  have hparse : parse path = .ok (.url "s3://bucket?region=eu-west-1" "key") := by decide +kernel
  have hlocate : Cli.locate .absent (.url "s3://bucket?region=eu-west-1" "key") = .ok location := by
    decide +kernel
  obtain ⟨-, hverbatim, hrequests⟩ := bucket_of_names hnames hparse hlocate
  exact ⟨⟨_, hparse, hlocate⟩, hverbatim (by decide +kernel),
    hrequests Memory.serve .none Memory.empty .bare false i d (List.forall_mem_singleton.mpr rfl) rfl⟩

/-- What stands in front of an `@` names no bucket, and objects are removed from the one behind it. -/
theorem bucket_ne_named :
    let path := "s3://a@b/k"
    let i : Cli.Invocation := ⟨.plain, .remove ⟨[path], false, false⟩⟩
    let d : Cli.Desk (Fleet (Noted Memory)) := ⟨.absent, ∅, .blank⟩
    let s := Cli.recording Memory.serve .none Memory.empty .bare
    let after := (i.run s false d).2.services
    Names path "s3".toList "a@b".toList "/k".toList ∧ ':' ∉ "s3".toList ∧
      ∃ target location, parse path = .ok target ∧ Cli.locate .absent target = .ok location ∧
        location.bucket = "b" ∧ location.bucket.toList ≠ "a@b".toList ∧
        (Cli.eventsOf after "b").map (·.request) = [.head ⟨"b", "k"⟩] ∧
        Cli.eventsOf after "a@b" = [] := by
  intro path i d s after
  have hnames : Names path "s3".toList "a@b".toList "/k".toList :=
    { cut := Text.firstAt_of_cutAtWord (by decide +kernel)
      slash := by decide +kernel
      mark := by decide +kernel
      tail := .inr (.inl (by decide +kernel)) }
  refine ⟨hnames, by decide +kernel, .url "s3://a@b" "k", ⟨"b", none, none, false, false⟩,
    by decide +kernel, by decide +kernel, rfl, by decide +kernel, by decide +kernel, ?_⟩
  have hnone : (Cli.eventsOf after "a@b").map (·.request) = [] := by decide +kernel
  exact List.map_eq_nil_iff.mp hnone

end Target

end BlobStore
