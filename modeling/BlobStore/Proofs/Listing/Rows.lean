import BlobStore.Memory
import BlobStore.Proofs.KeyMap
import BlobStore.Proofs.Text.Cut

/-!
# Rows of a listing

A stored key that starts with the stem is listed as it is if the delimiter does not occur after the
stem, and otherwise under its start up to the first delimiter there. The rows of a listing are in
strictly ascending order, so none is listed twice.
-/

namespace BlobStore

/-- The key is listed as it is. -/
def IsPlain (stem delimiter key : String) : Prop :=
  ∃ rest, key.toList = stem.toList ++ rest ∧ (delimiter = "" ∨ ¬delimiter.toList <:+: rest)

/-- The key is listed under its start up to the first delimiter after the stem. -/
def IsDirectoryOf (stem delimiter key dir : String) : Prop :=
  delimiter ≠ "" ∧ ∃ rest left right, key.toList = stem.toList ++ rest ∧
    Text.FirstAt delimiter.toList rest left right ∧
    dir.toList = stem.toList ++ (left ++ delimiter.toList)

private theorem IsDirectoryOf.not_isPlain {stem delimiter key dir : String}
    (h : IsDirectoryOf stem delimiter key dir) : ¬IsPlain stem delimiter dir := by
  obtain ⟨hd, rest, left, right, _, _, hdir⟩ := h
  rintro ⟨rest', hrest, he | hn⟩
  · exact hd he
  · have heq : left ++ delimiter.toList = rest' := List.append_cancel_left (hdir.symm.trans hrest)
    exact hn ⟨left, [], by rw [List.append_nil, heq]⟩

namespace Memory

/-- The delimiter as it is asked for. -/
def cutting (delimiter : String) : Option String :=
  if delimiter.isEmpty then none else some delimiter

private theorem cutting_eq_none {delimiter : String} (h : delimiter = "") :
    cutting delimiter = none := by
  simp [cutting, h]

private theorem cutting_eq_some {delimiter : String} (h : delimiter ≠ "") :
    cutting delimiter = some delimiter := by
  simp [cutting, h]

private theorem rowOf?_append {stem delimiter key : String} {rest : List Char}
    (h : key.toList = stem.toList ++ rest) :
    rowOf? stem.toList ((cutting delimiter).map String.toList) key =
      match ((cutting delimiter).map String.toList).bind (Text.cutAtWord · rest) with
      | some (left, _) => some ⟨String.ofList (stem.toList ++ left ++
          ((cutting delimiter).map String.toList).getD []), true⟩
      | none => some ⟨key, false⟩ := by
  rw [rowOf?, h, Text.isPrefixOf?_append]
  rfl

theorem rowOf?_of_isPlain {stem delimiter key : String} (h : IsPlain stem delimiter key) :
    rowOf? stem.toList ((cutting delimiter).map String.toList) key = some ⟨key, false⟩ := by
  obtain ⟨rest, hkey, hn⟩ := h
  rw [rowOf?_append hkey]
  by_cases hd : delimiter = ""
  · rw [cutting_eq_none hd]
    rfl
  · have hnone := Text.cutAtWord_eq_none.mpr (hn.resolve_left hd)
    rw [cutting_eq_some hd, Option.map_some, Option.bind_some, hnone]

theorem rowOf?_of_isDirectoryOf {stem delimiter key dir : String}
    (h : IsDirectoryOf stem delimiter key dir) :
    rowOf? stem.toList ((cutting delimiter).map String.toList) key = some ⟨dir, true⟩ := by
  obtain ⟨hd, rest, left, right, hkey, hfirst, hdir⟩ := h
  have hcut := Text.cutAtWord_eq_some.mpr hfirst
  rw [rowOf?_append hkey, cutting_eq_some hd, Option.map_some, Option.bind_some, hcut]
  simp only [Option.getD_some, List.append_assoc]
  rw [← hdir, String.ofList_toList]

/-- A key has a row if it starts with the stem, and one row only. -/
theorem rowOf?_eq_some {stem delimiter key : String} {row : Row} :
    rowOf? stem.toList ((cutting delimiter).map String.toList) key = some row ↔
      (row = ⟨key, false⟩ ∧ IsPlain stem delimiter key) ∨
      (row.isGroup = true ∧ IsDirectoryOf stem delimiter key row.name) := by
  constructor
  · intro h
    cases hp : stem.toList.isPrefixOf? key.toList with
    | none =>
      rw [rowOf?, hp] at h
      cases h
    | some rest =>
      have hkey := Text.isPrefixOf?_eq_some.mp hp
      by_cases hd : delimiter = ""
      · have hplain : IsPlain stem delimiter key := ⟨rest, hkey, Or.inl hd⟩
        rw [rowOf?_of_isPlain hplain] at h
        exact Or.inl ⟨(Option.some.inj h).symm, hplain⟩
      · cases hcut : Text.cutAtWord delimiter.toList rest with
        | none =>
          have hplain : IsPlain stem delimiter key :=
            ⟨rest, hkey, Or.inr (Text.cutAtWord_eq_none.mp hcut)⟩
          rw [rowOf?_of_isPlain hplain] at h
          exact Or.inl ⟨(Option.some.inj h).symm, hplain⟩
        | some cut =>
          obtain ⟨left, right⟩ := cut
          have hdir : IsDirectoryOf stem delimiter key
              (String.ofList (stem.toList ++ (left ++ delimiter.toList))) :=
            ⟨hd, rest, left, right, hkey, Text.cutAtWord_eq_some.mp hcut, String.toList_ofList⟩
          rw [rowOf?_of_isDirectoryOf hdir] at h
          obtain rfl := Option.some.inj h
          exact Or.inr ⟨rfl, hdir⟩
  · rintro (⟨rfl, hplain⟩ | ⟨hgroup, hdir⟩)
    · exact rowOf?_of_isPlain hplain
    · rw [rowOf?_of_isDirectoryOf hdir, ← hgroup]

private theorem row_eq_of_name {stem delimiter key key' : String} {row row' : Row}
    (h : rowOf? stem.toList ((cutting delimiter).map String.toList) key = some row)
    (h' : rowOf? stem.toList ((cutting delimiter).map String.toList) key' = some row')
    (hn : row.name = row'.name) : row = row' := by
  obtain ⟨name, isGroup⟩ := row
  obtain ⟨name', isGroup'⟩ := row'
  obtain rfl : name = name' := hn
  rcases rowOf?_eq_some.mp h with ⟨he, hplain⟩ | ⟨rfl, hdir⟩
  · cases he
    rcases rowOf?_eq_some.mp h' with ⟨he', _⟩ | ⟨rfl, hdir'⟩
    · cases he'
      rfl
    · exact absurd hplain hdir'.not_isPlain
  · rcases rowOf?_eq_some.mp h' with ⟨he', hplain'⟩ | ⟨rfl, _⟩
    · cases he'
      exact absurd hplain' hdir.not_isPlain
    · rfl

section Sorted

variable {α : Type} (name : α → String)

private theorem name_le_trans (a b c : α) (hab : decide (name a ≤ name b) = true)
    (hbc : decide (name b ≤ name c) = true) : decide (name a ≤ name c) = true :=
  decide_eq_true (String.le_trans (of_decide_eq_true hab) (of_decide_eq_true hbc))

private theorem name_le_total (a b : α) :
    (decide (name a ≤ name b) || decide (name b ≤ name a)) = true := by
  simpa using String.le_total (name a) (name b)

theorem pairwise_sorted (xs : List α) :
    (xs.mergeSort fun a b => decide (name a ≤ name b)).Pairwise fun a b => name a ≤ name b :=
  (List.pairwise_mergeSort (name_le_trans name) (name_le_total name) xs).imp of_decide_eq_true

theorem sublist_sorted {part xs : List α} (hpart : part.Pairwise fun a b => name a ≤ name b)
    (h : part.Sublist xs) : part.Sublist (xs.mergeSort fun a b => decide (name a ≤ name b)) :=
  List.sublist_mergeSort (name_le_trans name) (name_le_total name) (hpart.imp decide_eq_true) h

end Sorted

private theorem mem_dropRepeats {row : Row} {rows : List Row} :
    row ∈ dropRepeats rows ↔ row ∈ rows := by
  fun_induction dropRepeats rows with
  | case1 a rest ih => simp [ih]
  | case2 a b rest hne ih => simp [ih]
  | case3 rows hn => rfl

private theorem dropRepeats_ascending {rows : List Row}
    (hle : rows.Pairwise fun a b => a.name ≤ b.name)
    (hname : ∀ a ∈ rows, ∀ b ∈ rows, a.name = b.name → a = b) :
    (dropRepeats rows).Pairwise fun a b => a.name < b.name := by
  fun_induction dropRepeats rows with
  | case1 a rest ih =>
    exact ih (List.pairwise_cons.mp hle).2 fun x hx y hy => hname x (by simp [hx]) y (by simp [hy])
  | case2 a b rest hne ih =>
    obtain ⟨habove, hle'⟩ := List.pairwise_cons.mp hle
    have ih' := ih hle' fun x hx y hy => hname x (by simp [hx]) y (by simp [hy])
    refine List.pairwise_cons.mpr ⟨?_, ih'⟩
    intro c hc
    have hmem := mem_dropRepeats.mp hc
    have hab : a.name < b.name :=
      Std.lt_of_le_of_ne (habove b (by simp)) fun he => hne (hname a (by simp) b (by simp) he)
    have hbc : b.name ≤ c.name := by
      rcases List.mem_cons.mp hmem with rfl | hrest
      · exact String.le_refl _
      · exact (List.pairwise_cons.mp hle').1 c hrest
    exact Std.lt_of_lt_of_le hab hbc
  | case3 rows hn =>
    match rows, hn with
    | [], _ => exact .nil
    | [a], _ => exact List.pairwise_singleton _ a
    | a :: b :: rest, hn => exact absurd rfl (hn a b rest)

theorem mem_rows {m : Memory} {stem delimiter : String} {row : Row} :
    row ∈ m.rows stem (cutting delimiter) ↔
      ∃ key o, m.objects.get? key = some o ∧
        rowOf? stem.toList ((cutting delimiter).map String.toList) key = some row := by
  simp only [rows, mem_dropRepeats, List.mem_mergeSort, List.mem_filterMap, KeyMap.mem_keys,
    exists_and_right]

theorem rows_ascending (m : Memory) (stem delimiter : String) :
    (m.rows stem (cutting delimiter)).Pairwise fun a b => a.name < b.name := by
  apply dropRepeats_ascending
  · exact pairwise_sorted Row.name _
  · intro a ha b hb hn
    rw [List.mem_mergeSort, List.mem_filterMap] at ha hb
    obtain ⟨_, _, ha⟩ := ha
    obtain ⟨_, _, hb⟩ := hb
    exact row_eq_of_name ha hb hn

end Memory

end BlobStore
