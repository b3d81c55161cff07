import BlobStore.Listing
import BlobStore.Proofs.Listing.Rows
import BlobStore.Proofs.Text.ByteOrder
import Mathlib.Data.List.Pairwise
import Mathlib.Data.List.Sort

/-!
# Pages of a listing

The memory answers with objects and directories in two lists. Put into one page they are the rows
that the page was cut from, in their order.
-/

namespace BlobStore

/-- What is listed of a stored object. -/
def StoredObject.entry (key : String) (o : StoredObject) : ListEntry :=
  { key
    size := o.data.size
    modified := Memory.clock.instant?
    md5 := md5OfTag? (some o.etag)
    isDir := false }

namespace Memory

def rowEntry (m : Memory) (row : Row) : ListEntry :=
  ((m.listedObject? row).map ListEntry.ofObject).getD (.dir row.name)

private theorem rowEntry_of_isGroup {m : Memory} {row : Row} (h : row.isGroup = true) :
    m.rowEntry row = .dir row.name := by
  rw [rowEntry, listedObject?, if_pos h]
  rfl

private theorem rowEntry_of_stored {m : Memory} {row : Row} {o : StoredObject}
    (h : row.isGroup = false) (ho : m.objects.get? row.name = some o) :
    m.rowEntry row = o.entry row.name := by
  rw [rowEntry, listedObject?, if_neg (by simp [h]), ho]
  rfl

theorem key_rowEntry (m : Memory) (row : Row) : (m.rowEntry row).key = row.name := by
  unfold rowEntry listedObject?
  split
  · rfl
  · cases m.objects.get? row.name <;> rfl

/-- Rows that can stand on one page. -/
structure Listable (m : Memory) (page : List Row) : Prop where
  ascending : page.Pairwise fun a b => a.name < b.name
  stored : ∀ row ∈ page, row.isGroup = false → ∃ o, m.objects.get? row.name = some o

/-- The answer that lists the rows of a page. -/
def listed (m : Memory) (page : List Row) (nextToken : Option String) : Listed :=
  let contents := page.filterMap m.listedObject?
  let groups := (page.filter (·.isGroup)).map fun row => some row.name
  { contents := if contents.isEmpty then none else some contents
    stems := if groups.isEmpty then none else some groups
    nextToken }

private theorem getD_ite {α : Type} (xs : List α) :
    (if xs.isEmpty then none else some xs).getD [] = xs := by
  cases xs <;> rfl

private theorem objects_eq {m : Memory} {page : List Row} (h : m.Listable page) :
    (page.filterMap m.listedObject?).map ListEntry.ofObject =
      (page.filter fun row => !row.isGroup).map m.rowEntry := by
  obtain ⟨-, hstored⟩ := h
  induction page with
  | nil => rfl
  | cons row page ih =>
    have ih' := ih fun r hr => hstored r (by simp [hr])
    cases hg : row.isGroup with
    | true =>
      have hnone : m.listedObject? row = none := if_pos hg
      simp [hnone, hg, ih']
    | false =>
      obtain ⟨o, ho⟩ := hstored row (by simp) hg
      have hsome : (m.listedObject? row).map ListEntry.ofObject = some (m.rowEntry row) := by
        rw [rowEntry_of_stored hg ho, listedObject?, if_neg (by simp [hg]), ho]
        rfl
      obtain ⟨listedObject, hlisted, hentry⟩ := Option.map_eq_some_iff.mp hsome
      simp [hlisted, hg, ih', hentry]

private theorem directories_eq (m : Memory) (page : List Row) :
    (((page.filter (·.isGroup)).map fun row => some row.name).filterMap id).map ListEntry.dir =
      (page.filter (·.isGroup)).map m.rowEntry := by
  have hsome : (id ∘ fun row : Row => some row.name) = some ∘ Row.name := rfl
  rw [List.filterMap_map, hsome, List.filterMap_eq_map, List.map_map]
  apply List.map_congr_left
  intro row hrow
  exact (rowEntry_of_isGroup (List.mem_filter.mp hrow).2).symm

private theorem Listable.eq_of_name {m : Memory} {page : List Row} (h : m.Listable page)
    {row row' : Row} (hrow : row ∈ page) (hrow' : row' ∈ page) (hn : row.name = row'.name) :
    row = row' := by
  have hsymm : Std.Symm fun a b : Row => a.name ≠ b.name := ⟨fun _ _ => Ne.symm⟩
  by_contra hne
  exact (h.ascending.imp String.ne_of_lt).forall hrow hrow' hne hn

private theorem eq_of_sorted {m : Memory} {page : List Row} {entries : List ListEntry}
    (h : m.Listable page) (hperm : entries.Perm (page.map m.rowEntry))
    (hsorted : entries.Pairwise fun a b => a.key ≤ b.key) : entries = page.map m.rowEntry := by
  refine List.Perm.eq_of_pairwise ?_ hsorted ?_ hperm
  · intro a b ha hb hab hba
    obtain ⟨row, hrow, rfl⟩ := List.mem_map.mp (hperm.subset ha)
    obtain ⟨row', hrow', rfl⟩ := List.mem_map.mp hb
    rw [key_rowEntry, key_rowEntry] at hab hba
    rw [h.eq_of_name hrow hrow' (String.le_antisymm hab hba)]
  · rw [List.pairwise_map]
    refine h.ascending.imp ?_
    intro a b hab
    rw [key_rowEntry, key_rowEntry]
    exact Std.le_of_lt hab

private theorem pairwise_filter {m : Memory} {page : List Row} (h : m.Listable page)
    (keep : Row → Bool) :
    ((page.filter keep).map m.rowEntry).Pairwise fun a b => a.key ≤ b.key := by
  rw [List.pairwise_map]
  refine (h.ascending.filter keep).imp ?_
  intro a b hab
  rw [key_rowEntry, key_rowEntry]
  exact Std.le_of_lt hab

/-- The two lists of an answer make up the page that it was cut from. -/
theorem entries_ofListed {m : Memory} {page : List Row} (h : m.Listable page)
    (nextToken : Option String) :
    (ListPage.ofListed (m.listed page nextToken)).entries = page.map m.rowEntry := by
  have hperm : ((page.filter fun row => !row.isGroup).map m.rowEntry ++
      (page.filter (·.isGroup)).map m.rowEntry).Perm (page.map m.rowEntry) := by
    rw [← List.map_append]
    refine List.Perm.map _ ?_
    exact List.perm_append_comm.trans (List.filter_append_perm (·.isGroup) page)
  simp only [ListPage.ofListed, listed, getD_ite, objects_eq h]
  rw [directories_eq]
  split
  · exact eq_of_sorted h ((List.mergeSort_perm _ _).trans hperm) (pairwise_sorted ListEntry.key _)
  · rename_i hmixed
    refine eq_of_sorted h hperm ?_
    simp only [Bool.and_eq_true, Bool.not_eq_true', not_and, Bool.not_eq_false] at hmixed
    -- One of the two lists is empty, and the other is in order as it comes.
    cases hc : (page.filterMap m.listedObject?).isEmpty with
    | true =>
      rw [← objects_eq h, List.isEmpty_iff.mp hc, List.map_nil, List.nil_append]
      exact pairwise_filter h _
    | false =>
      rw [List.map_eq_nil_iff.mp (List.isEmpty_iff.mp (hmixed hc)), List.map_nil, List.append_nil]
      exact pairwise_filter h _

theorem listable_of_sublist {m : Memory} {stem delimiter : String} {page : List Row}
    (h : page.Sublist (m.rows stem (cutting delimiter))) : m.Listable page where
  ascending := (m.rows_ascending stem delimiter).sublist h
  stored := by
    intro row hrow hg
    obtain ⟨key, o, ho, hof⟩ := mem_rows.mp (h.subset hrow)
    rcases rowOf?_eq_some.mp hof with ⟨rfl, _⟩ | ⟨hg', _⟩
    · exact ⟨o, ho⟩
    · rw [hg] at hg'
      cases hg'

/-- The entries that a listing is to consist of. -/
def Lists (m : Memory) (stem delimiter : String) (e : ListEntry) : Prop :=
  (∃ o, m.objects.get? e.key = some o ∧ IsPlain stem delimiter e.key ∧ e = o.entry e.key) ∨
    ∃ key o, m.objects.get? key = some o ∧ IsDirectoryOf stem delimiter key e.key ∧ e = .dir e.key

private theorem mem_entries_iff {m : Memory} {stem delimiter : String} {e : ListEntry} :
    e ∈ (m.rows stem (cutting delimiter)).map m.rowEntry ↔ m.Lists stem delimiter e := by
  constructor
  · intro he
    obtain ⟨row, hrow, rfl⟩ := List.mem_map.mp he
    obtain ⟨key, o, ho, hof⟩ := mem_rows.mp hrow
    unfold Lists
    rw [key_rowEntry]
    rcases rowOf?_eq_some.mp hof with ⟨rfl, hplain⟩ | ⟨hg, hdir⟩
    · exact Or.inl ⟨o, ho, hplain, rowEntry_of_stored rfl ho⟩
    · exact Or.inr ⟨key, o, ho, hdir, rowEntry_of_isGroup hg⟩
  · rintro (⟨o, ho, hplain, he⟩ | ⟨key, o, ho, hdir, he⟩)
    · refine List.mem_map.mpr ⟨⟨e.key, false⟩, mem_rows.mpr ⟨e.key, o, ho, ?_⟩, ?_⟩
      · exact rowOf?_of_isPlain hplain
      · rw [rowEntry_of_stored rfl ho]
        exact he.symm
    · refine List.mem_map.mpr ⟨⟨e.key, true⟩, mem_rows.mpr ⟨key, o, ho, ?_⟩, ?_⟩
      · exact rowOf?_of_isDirectoryOf hdir
      · rw [rowEntry_of_isGroup rfl]
        exact he.symm

/-- The entries of a listing, in the order of the bytes of their keys. -/
structure IsListing (m : Memory) (stem delimiter : String) (entries : List ListEntry) : Prop where
  mem_iff : ∀ e, e ∈ entries ↔ m.Lists stem delimiter e
  ascending : entries.Pairwise fun a b => Text.octets a.key < Text.octets b.key

theorem isListing (m : Memory) (stem delimiter : String) :
    m.IsListing stem delimiter ((m.rows stem (cutting delimiter)).map m.rowEntry) where
  mem_iff := fun _ => mem_entries_iff
  ascending := by
    rw [List.pairwise_map]
    refine (m.rows_ascending stem delimiter).imp ?_
    intro a b hab
    rw [key_rowEntry, key_rowEntry, Text.octets_lt_iff]
    exact hab

theorem IsListing.unique {m : Memory} {stem delimiter : String} {entries entries' : List ListEntry}
    (h : m.IsListing stem delimiter entries) (h' : m.IsListing stem delimiter entries') :
    entries = entries' := by
  have hirrefl : Std.Irrefl fun a b : ListEntry => Text.octets a.key < Text.octets b.key :=
    ⟨fun _ => List.lt_irrefl _⟩
  have hantisymm : Std.Antisymm fun a b : ListEntry => Text.octets a.key < Text.octets b.key :=
    ⟨fun _ _ hab hba => absurd hba (List.lt_asymm hab)⟩
  exact h.ascending.eq_of_mem_iff h'.ascending fun e => (h.mem_iff e).trans (h'.mem_iff e).symm

end Memory

end BlobStore
