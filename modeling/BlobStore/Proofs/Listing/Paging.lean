import BlobStore.Proofs.Listing.Tokens
import BlobStore.Proofs.Mishap

/-!
# Paging through a listing

A listing that is gone through page by page consists of all its rows, each of them once, on as few
pages as can be.
-/

namespace BlobStore

/-- How many pages a listing of `n` rows has. Even an empty one has a page. -/
def pageCount (pageSize n : Nat) : Nat :=
  max 1 ((n + pageBound pageSize - 1) / pageBound pageSize)

theorem pageCount_last {pageSize n : Nat} (h : n ≤ pageBound pageSize) : pageCount pageSize n = 1 := by
  have hpos := pageBound_pos pageSize
  have hlt : (n + pageBound pageSize - 1) / pageBound pageSize < 2 := by
    rw [Nat.div_lt_iff_lt_mul hpos]
    omega
  unfold pageCount
  omega

theorem pageCount_more {pageSize n : Nat} (h : pageBound pageSize < n) :
    pageCount pageSize n = pageCount pageSize (n - pageBound pageSize) + 1 := by
  have hpos := pageBound_pos pageSize
  have hnum : n + pageBound pageSize - 1 = n - 1 + pageBound pageSize := by omega
  have hrest : n - pageBound pageSize + pageBound pageSize - 1 = n - 1 := by omega
  have hone : 1 ≤ (n - 1) / pageBound pageSize := by
    rw [Nat.le_div_iff_mul_le hpos]
    omega
  unfold pageCount
  rw [hrest, hnum, Nat.add_div_right _ hpos]
  omega

/-- A page that is asked for by the name of the row before it holds the rows that come next. -/
theorem Memory.listPage_rows {m : Memory} (hkeys : m.objects.get? "" = none) (name : String)
    {o : ListOptions} {front back : List Row}
    (htoken : o.pageToken = (front.getLast?.map (·.name)).map String.toUTF8)
    (hrows : m.rows o.stem (cutting o.delimiter) = front ++ back) (events : List Event) :
    ∃ query, (Bucket.mk name (Memory.serve.noted .none)).listPage o pure ⟨m, events⟩ =
      (.ok (.ofListed (m.firstPage o.pageSize back)),
        ⟨m, events ++ [⟨.list query, .ok (m.firstPage o.pageSize back)⟩]⟩) := by
  have hsep := separates_rows hkeys hrows
  have hquery := query_eq name htoken hsep.ne_empty
  have hlist := list_queryAfter name o.pageSize hsep hrows
  generalize queryAfter name o.stem o.delimiter o.pageSize (front.getLast?.map (·.name)) = query at *
  have hserve : Memory.serve.noted .none (.list query) ⟨m, events⟩ =
      (.ok (m.firstPage o.pageSize back),
        ⟨m, events ++ [⟨.list query, .ok (m.firstPage o.pageSize back)⟩]⟩) := by
    unfold Service.noted
    simp only [Mishaps.answer?_none, Memory.serve, hlist]
    rfl
  exact ⟨query, listPage_eq (b := ⟨name, Memory.serve.noted .none⟩) hquery hserve⟩

/-- A request for a page that was answered with so many entries at most. -/
def Event.ListsAtMost (n : Nat) (e : Event) : Prop :=
  ∃ query answer, e = ⟨.list query, .ok answer⟩ ∧ (ListPage.ofListed answer).entries.length ≤ n

namespace ListCursor

theorem collect_of_exhausted {σ : Type} (b : Bucket σ) (adjust : Adjust ListQuery) (limit : Nat)
    {c : ListCursor} (h : c.exhausted = true) (s : σ) :
    c.collect b adjust limit s = (.ok c.buffered, s) := by
  cases limit with
  | zero => rw [ListCursor.collect, if_pos h]
  | succ limit => rw [ListCursor.collect, if_pos h]

/-- The cursor is to go on after these rows of a listing. -/
structure After (stem delimiter : String) (pageSize : Nat) (front : List Memory.Row)
    (c : ListCursor) : Prop where
  stem_eq : c.options.stem = stem
  delimiter_eq : c.options.delimiter = delimiter
  pageSize_eq : c.options.pageSize = pageSize
  token_eq : c.options.pageToken = (front.getLast?.map (·.name)).map String.toUTF8
  hasMore : c.exhausted = false

variable {m : Memory} {stem delimiter : String} {pageSize : Nat} {front back : List Memory.Row}
  {c : ListCursor}

private theorem listsAtMost_firstPage
    (hrows : m.rows stem (Memory.cutting delimiter) = front ++ back) (pageSize : Nat)
    (query : ListQuery) :
    Event.ListsAtMost (pageBound pageSize)
      ⟨.list query, .ok (m.firstPage pageSize back)⟩ := by
  refine ⟨query, _, rfl, ?_⟩
  rw [Memory.entries_firstPage hrows, List.length_map, List.length_take]
  exact Nat.min_le_left _ _

theorem After.fetch (h : c.After stem delimiter pageSize front)
    (hkeys : m.objects.get? "" = none) (name : String)
    (hrows : m.rows stem (Memory.cutting delimiter) = front ++ back) (events : List Event) :
    ∃ query, c.fetch ⟨name, Memory.serve.noted .none⟩ pure ⟨m, events⟩ =
      (.ok (c.accept (.ofListed (m.firstPage pageSize back))),
        ⟨m, events ++ [⟨.list query, .ok (m.firstPage pageSize back)⟩]⟩) := by
  rw [← h.stem_eq, ← h.delimiter_eq] at hrows
  obtain ⟨query, hpage⟩ := Memory.listPage_rows hkeys name h.token_eq hrows events
  rw [h.pageSize_eq] at hpage
  refine ⟨query, ?_⟩
  unfold ListCursor.fetch
  rw [hpage]

theorem After.accept (h : c.After stem delimiter pageSize front)
    (hkeys : m.objects.get? "" = none)
    (hrows : m.rows stem (Memory.cutting delimiter) = front ++ back)
    (hmore : pageBound pageSize < back.length) :
    (c.accept (.ofListed (m.firstPage pageSize back))).After stem delimiter pageSize
      (front ++ back.take (pageBound pageSize)) := by
  obtain ⟨last, hlast, htoken⟩ := Memory.nextToken_firstPage_of_lt hkeys hrows hmore
  refine ⟨h.stem_eq, h.delimiter_eq, h.pageSize_eq, ?_, ?_⟩
  · simp only [ListCursor.accept, htoken, List.getLast?_append, hlast]
    rfl
  · simp only [ListCursor.accept, htoken]
    rfl

private theorem After.collect_last (h : c.After stem delimiter pageSize front)
    (hkeys : m.objects.get? "" = none) (name : String)
    (hrows : m.rows stem (Memory.cutting delimiter) = front ++ back)
    (hlast : back.length ≤ pageBound pageSize) (limit : Nat) (events : List Event) :
    ∃ query, ListCursor.collect ⟨name, Memory.serve.noted .none⟩ pure (limit + 1) c ⟨m, events⟩ =
      (.ok (c.buffered ++ back.map m.rowEntry),
        ⟨m, events ++ [⟨.list query, .ok (m.firstPage pageSize back)⟩]⟩) := by
  obtain ⟨query, hfetch⟩ := h.fetch hkeys name hrows events
  have hexhausted : (c.accept (.ofListed (m.firstPage pageSize back))).exhausted = true := by
    rw [ListCursor.accept, m.nextToken_firstPage_of_le hlast]
    rfl
  have hbuffered : (c.accept (.ofListed (m.firstPage pageSize back))).buffered =
      back.map m.rowEntry := by
    rw [ListCursor.accept, Memory.entries_firstPage hrows pageSize, List.take_of_length_le hlast]
  refine ⟨query, ?_⟩
  rw [ListCursor.collect, if_neg (by simp [h.hasMore])]
  simp only [hfetch]
  rw [collect_of_exhausted _ _ limit hexhausted, hbuffered]

theorem After.collect (hkeys : m.objects.get? "" = none) (name : String) (limit : Nat)
    (h : c.After stem delimiter pageSize front)
    (hrows : m.rows stem (Memory.cutting delimiter) = front ++ back)
    (hlimit : pageCount pageSize back.length ≤ limit) (events : List Event) :
    ∃ new, ListCursor.collect ⟨name, Memory.serve.noted .none⟩ pure limit c ⟨m, events⟩ =
        (.ok (c.buffered ++ back.map m.rowEntry), ⟨m, events ++ new⟩) ∧
      new.length = pageCount pageSize back.length ∧
      ∀ e ∈ new, e.ListsAtMost (pageBound pageSize) := by
  -- Each page takes its rows from those that are left, and `After` tells which ones these are.
  induction limit generalizing c front back events with
  | zero =>
    have hone : 1 ≤ pageCount pageSize back.length := Nat.le_max_left _ _
    omega
  | succ limit ih =>
    by_cases hmore : pageBound pageSize < back.length
    · have hcount := pageCount_more hmore
      have hrows' : m.rows stem (Memory.cutting delimiter) =
          (front ++ back.take (pageBound pageSize)) ++ back.drop (pageBound pageSize) := by
        rw [List.append_assoc, List.take_append_drop, hrows]
      have hlimit' : pageCount pageSize (back.drop (pageBound pageSize)).length ≤ limit := by
        rw [List.length_drop]
        omega
      obtain ⟨query, hfetch⟩ := h.fetch hkeys name hrows events
      obtain ⟨new, hrest, hlength, hnew⟩ := ih (h.accept hkeys hrows hmore) hrows' hlimit'
        (events ++ [⟨.list query, .ok (m.firstPage pageSize back)⟩])
      have hbuffered : (c.accept (.ofListed (m.firstPage pageSize back))).buffered ++
          (back.drop (pageBound pageSize)).map m.rowEntry = back.map m.rowEntry := by
        rw [ListCursor.accept, Memory.entries_firstPage hrows pageSize, ← List.map_append,
          List.take_append_drop]
      refine ⟨⟨.list query, .ok (m.firstPage pageSize back)⟩ :: new, ?_, ?_, ?_⟩
      · rw [ListCursor.collect, if_neg (by simp [h.hasMore])]
        simp only [hfetch]
        rw [hrest, hbuffered, List.append_assoc]
        rfl
      · rw [List.length_cons, hlength, List.length_drop, hcount]
      · exact List.forall_mem_cons.mpr ⟨listsAtMost_firstPage hrows pageSize query, hnew⟩
    · have hlast : back.length ≤ pageBound pageSize := Nat.le_of_not_lt hmore
      obtain ⟨query, hcollect⟩ := h.collect_last hkeys name hrows hlast limit events
      refine ⟨_, hcollect, ?_, ?_⟩
      · rw [pageCount_last hlast]
        rfl
      · exact List.forall_mem_singleton.mpr (listsAtMost_firstPage hrows pageSize query)

/-- Going through a listing page by page ends, and loses and repeats nothing. The pages are as few
as can be, and none is longer than was asked for. -/
theorem collect_lists {m : Memory} (hkeys : m.objects.get? "" = none)
    (name stem delimiter : String) (pageSize : Nat) :
    ∃ entries, m.IsListing stem delimiter entries ∧
      ∀ limit, pageCount pageSize entries.length ≤ limit → ∃ events,
        ListCursor.collect ⟨name, Memory.serve.noted .none⟩ pure limit
            (.new ⟨stem, delimiter, pageSize, none⟩) ⟨m, []⟩ = (.ok entries, ⟨m, events⟩) ∧
          events.length = pageCount pageSize entries.length ∧
          ∀ e ∈ events, e.ListsAtMost (pageBound pageSize) := by
  refine ⟨_, m.isListing stem delimiter, ?_⟩
  intro limit hlimit
  rw [List.length_map] at hlimit ⊢
  have hnew : (ListCursor.new ⟨stem, delimiter, pageSize, none⟩).After stem delimiter pageSize [] :=
    ⟨rfl, rfl, rfl, rfl, rfl⟩
  exact hnew.collect hkeys name limit rfl hlimit []

def shelf : Memory :=
  (Memory.empty.put ⟨⟨"bucket", "a/b"⟩, .none, none⟩ ⟨#[1]⟩).put ⟨⟨"bucket", "c"⟩, .none, none⟩ ⟨#[]⟩

theorem collect_lists_shelf :
    shelf.objects.get? "" = none ∧ ∃ entries, shelf.IsListing "" "/" entries ∧
      ∀ limit, pageCount 1 entries.length ≤ limit → ∃ events,
        ListCursor.collect ⟨"bucket", Memory.serve.noted .none⟩ pure limit
            (.new ⟨"", "/", 1, none⟩) ⟨shelf, []⟩ = (.ok entries, ⟨shelf, events⟩) ∧
          events.length = pageCount 1 entries.length ∧ ∀ e ∈ events, e.ListsAtMost (pageBound 1) :=
  ⟨by decide, collect_lists (by decide) "bucket" "" "/" 1⟩

end ListCursor

end BlobStore
