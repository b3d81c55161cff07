import Mathlib.Algebra.BigOperators.Group.List.Basic
import Mathlib.Algebra.BigOperators.Ring.Finset
import Mathlib.Data.List.Basic
import BlobStore.Proofs.Cli.Items
import BlobStore.Proofs.Cli.Paging
import BlobStore.Proofs.Listing.Merge
import BlobStore.Script

/-!
# Totals of a listing

A listing is made of the answers to the requests for its pages. Its summary counts what is shown and
adds up the sizes that are shown. The sum is kept in a word of 64 bits, which may be too small for it:
a service may report sizes of almost 2 ^ 63 bytes. A checked build then ends before there is a summary,
and a release build shows what is left in the word.
-/

namespace BlobStore

variable {σ : Type}

/-! ## Listings as they are answered -/

/-- The answers to the requests for the pages of a listing: for the first page alone, or for all of
them, each asked for with the token of the one before, up to one that has no token. -/
inductive Answers (b : Bucket σ) (all : Bool) : ListOptions → σ → List Listed → σ → Prop
  | last {o : ListOptions} {q : ListQuery} {s t : σ} {l : Listed} : o.query b.name = .ok q →
      b.serve (.list q) s = (.ok l, t) → (all = true → (ListPage.ofListed l).nextToken = none) →
      Answers b all o s [l] t
  | more {o : ListOptions} {q : ListQuery} {s t u : σ} {l : Listed} {answers : List Listed}
      {token : ByteArray} : all = true → o.query b.name = .ok q → b.serve (.list q) s = (.ok l, t) →
      (ListPage.ofListed l).nextToken = some token →
      Answers b all { o with pageToken := some token } t answers u →
      Answers b all o s (l :: answers) u

namespace Answers

/-- What is listed: the entries of all pages, one page after the other. -/
def entries (answers : List Listed) : List ListEntry :=
  answers.flatMap fun l => (ListPage.ofListed l).entries

/-- The objects that the service has told of. -/
def objects (answers : List Listed) : List ListedObject := answers.flatMap (·.contents.getD [])

variable {b : Bucket σ} {all : Bool} {o : ListOptions} {s u : σ} {answers : List Listed} {limit : Nat}

theorem collect (h : Answers b all o s answers u) (hall : all = true) (hlimit : answers.length ≤ limit)
    {c : ListCursor} (hoptions : c.options = o) (hmore : c.exhausted = false) :
    c.collect b pure limit s = (.ok (c.buffered ++ entries answers), u) := by
  induction h generalizing limit c with
  | @last o q s t l hquery hserve htoken =>
    obtain ⟨limit, rfl⟩ := Nat.exists_eq_add_of_le' hlimit
    have hexhausted : (c.accept (.ofListed l)).exhausted = true := by
      rw [ListCursor.accept, htoken hall]
      rfl
    rw [List.length_singleton, ListCursor.collect, if_neg (by simp [hmore])]
    simp only [ListCursor.fetch, hoptions, listPage_eq hquery hserve,
      ListCursor.collect_of_exhausted _ _ _ hexhausted]
    rw [entries, List.flatMap_singleton]
    rfl
  | @more o q s t u l answers token _ hquery hserve htoken _ ih =>
    obtain ⟨limit, rfl⟩ := Nat.exists_eq_add_of_le' hlimit
    have hrest := ih (c := c.accept (.ofListed l)) (Nat.le_add_left answers.length limit)
      (by rw [ListCursor.accept, htoken, hoptions]) (by rw [ListCursor.accept, htoken]; rfl)
    rw [List.length_cons, ← Nat.add_assoc, ListCursor.collect, if_neg (by simp [hmore])]
    simp only [ListCursor.fetch, hoptions, listPage_eq hquery hserve, hrest]
    rfl

private theorem entries_eq (h : Answers b all o s answers u) (hlimit : answers.length ≤ limit) :
    ∃ token, Cli.Browse.entries b limit all o s = (.ok (entries answers, token), u) := by
  cases hall : all with
  | true =>
    refine ⟨none, ?_⟩
    have hcollect := h.collect hall hlimit (c := .new o) rfl rfl
    rw [Cli.Browse.entries, if_pos rfl, hcollect]
    rfl
  | false =>
    cases h with
    | more htrue => simp [hall] at htrue
    | @last _ q _ _ l hquery hserve =>
      refine ⟨(ListPage.ofListed l).nextToken.map Bytes.Hex.encode, ?_⟩
      rw [Cli.Browse.entries, if_neg Bool.false_ne_true, listPage_eq hquery hserve, entries,
        List.flatMap_singleton]

end Answers

namespace Cli.Browse

open Json (find?_optional)

/-! ## Sums -/

/-- The sizes of a page are those that the service has told, where what is negative or missing counts
as nothing. -/
theorem sum_sizes_ofListed (l : Listed) :
    ((objectSizes (ListPage.ofListed l).entries).sum : Int) =
      ((l.contents.getD []).map fun o => max 0 (o.size.getD 0)).sum := by
  have hobjects : ((ListPage.told l).filter (!·.isDir)) = (l.contents.getD []).map .ofObject := by
    rw [ListPage.told, List.filter_append, List.filter_eq_self.mpr, List.filter_eq_nil_iff.mpr,
      List.append_nil]
    · intro e he
      obtain ⟨name, -, rfl⟩ := List.mem_map.mp he
      exact Bool.false_ne_true
    · intro e he
      obtain ⟨o, -, rfl⟩ := List.mem_map.mp he
      rfl
  have hsum := (((ListPage.entries_perm l).filter (!·.isDir)).map (·.size)).sum_eq
  rw [objectSizes, hsum, hobjects, List.map_map]
  induction l.contents.getD [] with
  | nil => rfl
  | cons o objects ih =>
    have hsize := (ListEntry.shows_ofObject o).size
    rw [List.map_cons, List.map_cons, List.sum_cons, List.sum_cons, ← ih, ← hsize, Nat.cast_add]
    rfl

private theorem sum_sizes_entries (answers : List Listed) :
    ((objectSizes (Answers.entries answers)).sum : Int) =
      ((Answers.objects answers).map fun o => max 0 (o.size.getD 0)).sum := by
  induction answers with
  | nil => rfl
  | cons l answers ih =>
    have hentries : objectSizes (Answers.entries (l :: answers)) =
        objectSizes (ListPage.ofListed l).entries ++ objectSizes (Answers.entries answers) := by
      rw [objectSizes, Answers.entries, List.flatMap_cons, List.filter_append, List.map_append]
      rfl
    rw [hentries, List.sum_append, Nat.cast_add, ih, sum_sizes_ofListed, Answers.objects,
      Answers.objects, List.flatMap_cons, List.map_append, List.sum_append]

/-! ## What is shown -/

namespace Report

variable (r : Report)

/-- The sizes that are shown. -/
def sizes : List Int := r.items.filterMap fun item => (item.field? "size_bytes").bind (·.integer?)

/-- Whether each item is shown as a directory. -/
def flags : List Bool := r.items.filterMap fun item => (item.field? "is_dir").bind (·.bool?)

private theorem flags_eq : r.flags = r.entries.map (·.isDir) := by
  rw [flags, items_eq, List.filterMap_map, ← List.filterMap_eq_map]
  congr 1
  funext e
  show ((Json.Value.object (entryFields e)).field? "is_dir").bind (·.bool?) = some e.isDir
  rw [isDir_item]
  rfl

private theorem sizes_eq : r.sizes = (objectSizes r.entries).map Nat.cast := by
  rw [sizes, items_eq, List.filterMap_map, objectSizes]
  induction r.entries with
  | nil => rfl
  | cons e entries ih =>
    have hsize : (((Json.Value.object (entryFields e)).field? "size_bytes").bind (·.integer?)) =
        if e.isDir then none else some (e.size : Int) := by
      rw [size_item]
      cases e.isDir <;> rfl
    rw [List.filterMap_cons, Function.comp_apply, hsize, ih]
    cases hdir : e.isDir <;> simp [hdir]

/-- The totals that are shown, in JSON and in a line, are the numbers of items and of directories, and
what a word of 64 bits holds of the sum of the sizes. -/
structure Totals (objects directories bytes : Nat) : Prop where
  items : objects + directories = r.items.length
  directories_eq : directories = r.flags.count true
  bytes_eq : (bytes : Int) = r.sizes.sum
  json : r.json.field? "summary" = some (.object [("total_objects", .number objects),
    ("total_dirs", .number directories), ("total_size_bytes", .number (bytes % 2 ^ 64 : Nat)),
    ("total_size_human", .string (Size.human (bytes % 2 ^ 64)))])
  line : ∀ style, s!"\nTotal: {objects} objects, {directories} directories, {Size.human (bytes % 2 ^ 64)}" ∈
    r.lines style

variable (entries : List ListEntry) (token : Option String)

private theorem field_summary (summary : Summary) :
    (mk entries token (some summary)).json.field? "summary" = some (summaryJson summary) := by
  unfold json Json.Value.field?
  simp only [List.find?_append, find?_optional]
  cases token <;> rfl

private theorem totals_of {build : Build} {summary : Summary}
    (h : Summary.of? build entries = some summary) :
    (mk entries token (some summary)).Totals (entries.filter (!·.isDir)).length
      (entries.filter (·.isDir)).length (objectSizes entries).sum where
  items := by
    rw [items_eq, List.length_map, Nat.add_comm]
    exact (List.length_eq_length_filter_add ListEntry.isDir).symm
  directories_eq := by
    rw [flags_eq, List.count, List.countP_map, List.countP_eq_length_filter]
    exact congrArg List.length (List.filter_congr fun e _ => by cases h : e.isDir <;> simp [h])
  bytes_eq := by
    rw [sizes_eq, Nat.cast_list_sum]
  json := by
    obtain rfl := Summary.eq_of_of? h
    rw [field_summary]
    rfl
  line := by
    intro style
    obtain rfl := Summary.eq_of_of? h
    exact List.mem_append_left _ (List.mem_append_right _ (List.mem_singleton.mpr rfl))

end Report

/-! ## Scripts -/

/-- Every bucket follows the script. -/
def scriptedSetting (build : Build) : Setting Scripted :=
  { toHost := { Host.bare with build, pageLimit := 2 }
    connect := fun location services => (.ok ⟨location.bucket, Scripted.serve⟩, services) }

/-- The script tells these pages. -/
def scriptedDesk (pages : List Listed) : Desk Scripted :=
  ⟨.absent, .new ⟨∅, ∅, 0⟩ { Script.none with listings := pages.map .ok }, .blank⟩

/-- The target of a whole bucket. -/
def wholeBucket : Target := .url "s3://b" ""

private theorem parse_wholeBucket : Target.parse "s3://b" = .ok wholeBucket := by
  decide +kernel

private theorem locate_wholeBucket (pages : List Listed) :
    locate (scriptedDesk pages).config wholeBucket = .ok ⟨"b", none, none, false, false⟩ := by
  have hlocate : locate .absent wholeBucket = .ok ⟨"b", none, none, false, false⟩ := by decide +kernel
  exact hlocate

/-! ## Runs -/

section Runs

variable {s : Setting σ} {d : Desk σ} {target : Target} {location : Location} {b : Bucket σ}
  {services services' : σ}

private theorem entries_deskBucket {pageLimit : Nat} {all : Bool} {o : ListOptions}
    {listed : List ListEntry × Option String}
    (h : entries b pageLimit all o services = (.ok listed, services')) (d : Desk σ) :
    entries (deskBucket b) pageLimit all o { d with services } =
      (.ok listed, { d with services := services' }) := by
  have hembeds : b.serve.Embeds (deskBucket b).serve fun services => { d with services } :=
    fun _ _ => rfl
  have hentries := entries_embed hembeds b.name pageLimit all o services
  rw [h] at hentries
  exact hentries

section

variable {config : Config} {token : Option ByteArray} {a : ListArguments} {answers : List Listed}

private theorem run_lists (colors : Bool) (style : Style) (hload : d.config.load = .ok config)
    (hparse : Target.parse a.path = .ok target) (hlocate : locate d.config target = .ok location)
    (hconnect : s.connect location d.services = (.ok b, services))
    (htoken : a.pageToken.mapM token? = .ok token)
    (hanswers : Answers b a.all (options config.defaults a target token) services answers services')
    (hlimit : answers.length ≤ s.pageLimit) :
    let i : Invocation := ⟨style, .list a⟩
    ∃ next, i.run s colors d = (conclude (i.styleWith colors config) s.build (Answers.entries answers)
      next a.summarize).run { d with services := services' } := by
  intro i
  obtain ⟨next, hentries⟩ := hanswers.entries_eq hlimit
  have hopen := openBucket_of_connect hlocate hconnect
  have hresolve := resolve_of_open (i.styleWith colors config) hparse hopen
  have hperform : perform s (i.styleWith colors config) config.defaults i.command d = _ :=
    execute_eq htoken hresolve (entries_deskBucket hentries d)
  refine ⟨next, ?_⟩
  rw [i.run_of_load s colors hload, Step.run, hperform]
  rfl

/-- A listing with a summary, made of any number of answers with any sizes, succeeds if it is the run
of a release build or its bytes are fewer than 2 ^ 64, and the summary is that of the items that are
shown: the two counts add up to the number of items, the one of directories is theirs, and the bytes
are the sum of the sizes that are shown, which is the sum of those that were told with nothing for
what is negative or missing, as far as a word of 64 bits holds it. So it is shown as it is just if it
is less than 2 ^ 64. If it is not, a checked build ends the program before there is a summary. -/
theorem run_totals (colors : Bool) (style : Style) (hsummarize : a.summarize = true)
    (hload : d.config.load = .ok config) (hparse : Target.parse a.path = .ok target)
    (hlocate : locate d.config target = .ok location)
    (hconnect : s.connect location d.services = (.ok b, services))
    (htoken : a.pageToken.mapM token? = .ok token)
    (hanswers : Answers b a.all (options config.defaults a target token) services answers services')
    (hlimit : answers.length ≤ s.pageLimit) :
    let i : Invocation := ⟨style, .list a⟩
    ∃ bytes : Nat, (bytes : Int) = ((Answers.objects answers).map fun o => max 0 (o.size.getD 0)).sum ∧
      (s.build = .release ∨ bytes < 2 ^ 64 → ∃ (r : Report) (objects directories : Nat),
        i.run s colors d = (.exited .success, { d with
          services := services', terminal := r.print (i.styleWith colors config) d.terminal }) ∧
        r.entries = Answers.entries answers ∧ r.Totals objects directories bytes ∧
        ((r.json.field? "summary").bind (·.field? "total_size_bytes") = some (.number bytes) ↔
          bytes < 2 ^ 64)) ∧
      (s.build = .checked ∧ 2 ^ 64 ≤ bytes → i.run s colors d = (.panicked, { d with
        services := services'
        terminal := cutShort (i.styleWith colors config) (Answers.entries answers) d.terminal })) := by
  intro i
  obtain ⟨next, hrun⟩ := run_lists colors style hload hparse hlocate hconnect htoken hanswers hlimit
  rw [hsummarize] at hrun
  refine ⟨_, sum_sizes_entries answers, fun hfits => ?_, fun hover => ?_⟩
  · have hsome : (Summary.of? s.build (Answers.entries answers)).isSome = true := by
      refine Summary.of?_isSome_iff.mpr fun hchecked => hfits.resolve_left fun hrelease => ?_
      rw [hchecked] at hrelease
      cases hrelease
    obtain ⟨summary, hsummary⟩ := Option.isSome_iff_exists.mp hsome
    have htotals := Report.totals_of (Answers.entries answers) next hsummary
    refine ⟨⟨Answers.entries answers, next, some summary⟩, _, _, ?_, rfl, htotals, ?_⟩
    · rw [hrun, Step.run, conclude_of_some hsummary]
    · rw [htotals.json]
      generalize (objectSizes (Answers.entries answers)).sum = bytes
      show some (Json.Value.number (bytes % 2 ^ 64 : Nat)) = some (.number bytes) ↔ bytes < 2 ^ 64
      rw [Option.some.injEq, Json.Value.number.injEq, Nat.cast_inj]
      exact Nat.mod_eq_iff_lt (by decide)
  · have hnone : Summary.of? s.build (Answers.entries answers) = none := by
      rw [Summary.of?_eq, if_pos hover]
    rw [hrun, Step.run, conclude_of_none hnone]

end

end Runs

/-- Two pages with a size that is missing, one below zero, and a directory. -/
theorem run_totals_two_pages :
    let first : Listed := ⟨some [⟨some "a", some 5, none, none⟩, ⟨some "b", none, none, none⟩,
      ⟨some "c", some (-7), none, none⟩], none, some "c"⟩
    let second : Listed := ⟨none, some [some "d/"], none⟩
    let a : ListArguments := ⟨"s3://b", "/", false, none, none, true, true⟩
    let d := scriptedDesk [first, second]
    a.summarize = true ∧ Target.parse a.path = .ok wholeBucket ∧
      (∃ state, Answers ⟨"b", Scripted.serve⟩ true (options .standard a wholeBucket none) d.services
        [first, second] state) ∧
      ∃ (r : Report) (d' : Desk Scripted),
        Invocation.run (scriptedSetting .checked) false ⟨⟨true, false, false, false⟩, .list a⟩ d =
          (.exited .success, d') ∧
        d'.terminal = Terminal.blank.document r.json ∧ r.items.length = 4 ∧
        r.json.field? "summary" = some (.object [("total_objects", .number 3), ("total_dirs", .number 1),
          ("total_size_bytes", .number 5), ("total_size_human", .string "5 B")]) := by
  intro first second a d
  have hload : d.config.load = .ok .standard := rfl
  obtain ⟨state, hanswers⟩ : ∃ state, Answers ⟨"b", Scripted.serve⟩ true
      (options .standard a wholeBucket none) d.services [first, second] state :=
    ⟨_, .more rfl rfl rfl rfl (.last rfl rfl fun _ => rfl)⟩
  have hlimit : [first, second].length ≤ (scriptedSetting .checked).pageLimit := by decide
  obtain ⟨bytes, hbytes, hfits, -⟩ :=
    run_totals (s := scriptedSetting .checked) (a := a) false ⟨true, false, false, false⟩ rfl hload
      parse_wholeBucket (locate_wholeBucket _) rfl rfl hanswers hlimit
  obtain rfl : bytes = 5 := Int.ofNat_inj.mp hbytes
  obtain ⟨r, objects, directories, hrun, hentries, htotals, -⟩ := hfits (.inr (by decide))
  have hlength : r.items.length = 4 := by
    rw [Report.items_eq, List.length_map, hentries]
    rfl
  obtain rfl : directories = 1 := by
    rw [htotals.directories_eq, Report.flags_eq, hentries]
    rfl
  obtain rfl : objects = 3 := by
    have hitems := htotals.items
    omega
  exact ⟨rfl, parse_wholeBucket, ⟨state, hanswers⟩, r, _, hrun, rfl, hlength, htotals.json⟩

/-- Three sizes of 2 ^ 63 - 1 bytes: a checked build ends the program with nothing shown, and a release
build shows less than their sum by 2 ^ 64. -/
theorem run_totals_overflow :
    let size : Int := 2 ^ 63 - 1
    let page : Listed := ⟨some [⟨some "a", some size, none, none⟩, ⟨some "b", some size, none, none⟩,
      ⟨some "c", some size, none, none⟩], none, none⟩
    let a : ListArguments := ⟨"s3://b", "/", false, none, none, false, true⟩
    let i : Invocation := ⟨⟨true, false, false, false⟩, .list a⟩
    (∃ d' : Desk Scripted, i.run (scriptedSetting .checked) false (scriptedDesk [page]) =
        (.panicked, d') ∧ d'.terminal = .blank) ∧
      ∃ (r : Report) (d' : Desk Scripted),
        i.run (scriptedSetting .release) false (scriptedDesk [page]) = (.exited .success, d') ∧
        d'.terminal = Terminal.blank.document r.json ∧ r.entries = Answers.entries [page] ∧
        r.sizes = [size, size, size] ∧ r.sizes.sum = 27670116110564327421 ∧
        (r.json.field? "summary").bind (·.field? "total_size_bytes") =
          some (.number 9223372036854775805) := by
  intro size page a i
  have hload : (scriptedDesk [page]).config.load = .ok .standard := rfl
  obtain ⟨state, hanswers⟩ : ∃ state, Answers ⟨"b", Scripted.serve⟩ false
      (options .standard a wholeBucket none) (scriptedDesk [page]).services [page] state :=
    ⟨_, .last rfl rfl nofun⟩
  have hlimit (build : Build) : [page].length ≤ (scriptedSetting build).pageLimit := Nat.le_succ 1
  have hlists (build : Build) : ∃ next, i.run (scriptedSetting build) false (scriptedDesk [page]) =
      (conclude (i.styleWith false .standard) build (Answers.entries [page]) next true).run
        { scriptedDesk [page] with services := state } :=
    run_lists (s := scriptedSetting build) (a := a) false i.style hload parse_wholeBucket
      (locate_wholeBucket _) rfl rfl hanswers (hlimit build)
  have hsizes : objectSizes (Answers.entries [page]) =
      [2 ^ 63 - 1, 2 ^ 63 - 1, 2 ^ 63 - 1] := by
    decide +kernel
  constructor
  · obtain ⟨next, hrun⟩ := hlists .checked
    have hnone : Summary.of? .checked (Answers.entries [page]) = none := by
      rw [Summary.of?_eq, hsizes]
      rfl
    rw [Step.run, conclude_of_none hnone] at hrun
    exact ⟨_, hrun, rfl⟩
  · obtain ⟨next, hrun⟩ := hlists .release
    have hsummary : Summary.of? .release (Answers.entries [page]) =
        some ⟨3, 0, 9223372036854775805⟩ := by
      rw [Summary.of?_eq, hsizes]
      rfl
    rw [Step.run, conclude_of_some hsummary] at hrun
    refine ⟨_, _, hrun, rfl, rfl, ?_, ?_, ?_⟩
    · rw [Report.sizes_eq, hsizes]
      rfl
    · rw [Report.sizes_eq, hsizes]
      rfl
    · rw [Report.field_summary]
      rfl

end Cli.Browse

end BlobStore
