import BlobStore.Listing
import BlobStore.Proofs.Listing.Rows
import BlobStore.Proofs.Text.ByteOrder
import Mathlib.Data.List.Forall2

/-!
# Merging the two lists of an answer

A page has an entry for each object of an answer and for each directory with a name, and nothing else.
Where the answer has some of both, the entries are sorted by the bytes of their keys and those with
equal keys stay in the order of the answer, objects first; otherwise the order of the answer is kept.
-/

namespace BlobStore

/-- The entry tells of an object. What the answer leaves out is empty or zero. -/
structure ListEntry.Shows (e : ListEntry) (o : ListedObject) : Prop where
  isDir : e.isDir = false
  key : e.key = o.key.getD ""
  size : (e.size : Int) = max 0 (o.size.getD 0)
  modified : e.modified = o.lastModified.bind Moment.instant?
  md5 : e.md5 = md5OfTag? o.etag

/-- The entry is the directory of that name. -/
structure ListEntry.IsDirNamed (e : ListEntry) (name : String) : Prop where
  isDir : e.isDir = true
  key : e.key = name
  size : e.size = 0
  modified : e.modified = none
  md5 : e.md5 = none

theorem ListEntry.shows_ofObject (o : ListedObject) : (ListEntry.ofObject o).Shows o where
  isDir := rfl
  key := rfl
  size := by
    show ((reportedSize o.size : Nat) : Int) = max 0 (o.size.getD 0)
    unfold reportedSize
    omega
  modified := rfl
  md5 := rfl

private theorem ListEntry.isDirNamed_dir (name : String) : (ListEntry.dir name).IsDirNamed name :=
  ⟨rfl, rfl, rfl, rfl, rfl⟩

/-- Sorting keeps those of one name in their order. -/
theorem filter_sorted {α : Type} (name : α → String) (key : String) (xs : List α) :
    (xs.mergeSort fun a b => decide (name a ≤ name b)).filter (name · = key) =
      xs.filter (name · = key) := by
  have hequal : (xs.filter (name · = key)).Pairwise fun a b => name a ≤ name b := by
    apply List.pairwise_of_forall_mem_list
    intro a ha b hb
    have hab : name a = name b := by
      rw [of_decide_eq_true (List.mem_filter.mp ha).2, of_decide_eq_true (List.mem_filter.mp hb).2]
    simpa only [hab] using String.le_refl (name b)
  have hsublist := (Memory.sublist_sorted name hequal List.filter_sublist).filter (name · = key)
  rw [List.filter_filter] at hsublist
  simp only [Bool.and_self] at hsublist
  have hperm := (List.mergeSort_perm xs fun a b => decide (name a ≤ name b)).filter (name · = key)
  exact (hsublist.eq_of_length hperm.length_eq.symm).symm

namespace ListPage

/-- What an answer tells of objects and of directories, in its order. -/
def told (l : Listed) : List ListEntry :=
  (l.contents.getD []).map ListEntry.ofObject ++ ((l.stems.getD []).filterMap id).map ListEntry.dir

def isMixed (l : Listed) : Bool := !(l.contents.getD []).isEmpty && !(l.stems.getD []).isEmpty

variable {l : Listed}

private theorem entries_of_mixed (h : isMixed l = true) : (ofListed l).entries =
    (told l).mergeSort fun a b => decide (a.key ≤ b.key) :=
  if_pos h

private theorem entries_of_not_mixed (h : isMixed l = false) : (ofListed l).entries = told l :=
  if_neg (by rw [isMixed] at h; rw [h]; exact Bool.false_ne_true)

theorem entries_perm (l : Listed) : (ofListed l).entries.Perm (told l) := by
  cases h : isMixed l with
  | true =>
    rw [entries_of_mixed h]
    exact List.mergeSort_perm _ _
  | false => rw [entries_of_not_mixed h]

private theorem nextToken_eq_some {token : ByteArray} : (ofListed l).nextToken = some token ↔
    ∃ text, l.nextToken = some text ∧ text ≠ "" ∧ token = text.toUTF8 := by
  show (l.nextToken.filter (!·.isEmpty)).map String.toUTF8 = some token ↔ _
  simp only [Option.map_eq_some_iff, Option.filter_eq_some_iff, Bool.not_eq_true',
    Bool.eq_false_iff, ne_eq, String.isEmpty_iff]
  constructor
  · rintro ⟨text, ⟨htext, hne⟩, rfl⟩
    exact ⟨text, htext, hne, rfl⟩
  · rintro ⟨text, htext, hne, rfl⟩
    exact ⟨text, ⟨htext, hne⟩, rfl⟩

/-- A page is made of an answer without loss: it has one entry for each object and for each directory
with a name. If the answer has some of both lists, the entries ascend by the bytes of their keys, and
those with equal keys keep the order of the answer, objects first. If one list is empty all entries
keep that order. The token is that of the answer unless it is empty. -/
theorem ofListed_merges (l : Listed) :
    let contents := l.contents.getD []
    let stems := l.stems.getD []
    let page := ofListed l
    ∃ objects dirs, List.Forall₂ ListEntry.Shows objects contents ∧
      List.Forall₂ ListEntry.IsDirNamed dirs (stems.filterMap id) ∧
      page.entries.Perm (objects ++ dirs) ∧
      (contents ≠ [] → stems ≠ [] →
        page.entries.Pairwise (fun a b => Text.octets a.key ≤ Text.octets b.key) ∧
        ∀ key, page.entries.filter (·.key = key) = (objects ++ dirs).filter (·.key = key)) ∧
      (contents = [] ∨ stems = [] → page.entries = objects ++ dirs) ∧
      ∀ token, page.nextToken = some token ↔
        ∃ text, l.nextToken = some text ∧ text ≠ "" ∧ token = text.toUTF8 := by
  intro contents stems page
  refine ⟨contents.map ListEntry.ofObject, (stems.filterMap id).map ListEntry.dir, ?_, ?_,
    entries_perm l, ?_, ?_, fun token => nextToken_eq_some⟩
  · exact List.forall₂_map_left_iff.mpr (List.forall₂_same.mpr fun o _ => ListEntry.shows_ofObject o)
  · exact List.forall₂_map_left_iff.mpr (List.forall₂_same.mpr fun name _ => ListEntry.isDirNamed_dir name)
  · intro hcontents hstems
    have hmixed : isMixed l = true := by
      simp [isMixed, contents, stems, hcontents, hstems]
    rw [show page.entries = _ from entries_of_mixed hmixed]
    refine ⟨?_, fun key => filter_sorted ListEntry.key key _⟩
    apply (Memory.pairwise_sorted ListEntry.key _).imp
    intro a b hab
    exact List.not_lt.mp fun hlt => String.not_lt.mpr hab (Text.octets_lt_iff.mp hlt)
  · intro hempty
    apply entries_of_not_mixed
    rcases hempty with hnil | hnil
    · simp [isMixed, contents, hnil]
    · simp [isMixed, stems, hnil]

/-- An object and a directory of one name, with an object that has no key and a size below zero. -/
theorem ofListed_merges_one_name :
    let l : Listed := ⟨some [⟨some "b", some 7, none, none⟩, ⟨none, some (-7), none, none⟩],
      some [some "b", none], some "t"⟩
    l.contents.getD [] ≠ [] ∧ l.stems.getD [] ≠ [] ∧
      (ofListed l).entries.Pairwise (fun a b => Text.octets a.key ≤ Text.octets b.key) ∧
      ∃ object dir, object.Shows ⟨some "b", some 7, none, none⟩ ∧ dir.IsDirNamed "b" ∧
        (ofListed l).entries.filter (·.key = "b") = [object, dir] := by
  intro l
  obtain ⟨objects, dirs, hobjects, hdirs, -, hmixed, -, -⟩ := ofListed_merges l
  have hcontents : l.contents.getD [] ≠ [] := by simp [l]
  have hstems : l.stems.getD [] ≠ [] := by simp [l]
  obtain ⟨hsorted, hkept⟩ := hmixed hcontents hstems
  obtain ⟨object, _, hobject, hmore, rfl⟩ := List.forall₂_cons_right_iff.mp hobjects
  obtain ⟨keyless, _, hkeyless, hnone, rfl⟩ := List.forall₂_cons_right_iff.mp hmore
  obtain rfl := List.forall₂_nil_right_iff.mp hnone
  obtain ⟨dir, _, hdir, hnone, rfl⟩ := List.forall₂_cons_right_iff.mp hdirs
  obtain rfl := List.forall₂_nil_right_iff.mp hnone
  refine ⟨hcontents, hstems, hsorted, object, dir, hobject, hdir, ?_⟩
  rw [hkept]
  simp [hobject.key, hkeyless.key, hdir.key]

end ListPage

end BlobStore
