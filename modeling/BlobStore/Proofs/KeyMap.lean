import BlobStore.KeyMap
import Mathlib.Data.List.Induction
import Mathlib.Data.List.Sort

/-!
# Maps are determined by their values

A map is known by what is found under each key, so equations between maps follow from equations
between look-ups.
-/

namespace BlobStore.KeyMap

variable {α : Type}

private theorem find?_iff_mem {entries : List (String × α)} (key : String) (value : α)
    (ho : entries.Pairwise (·.1 < ·.1)) :
    find? key entries = some value ↔ (key, value) ∈ entries := by
  induction entries with
  | nil => simp [find?]
  | cons head rest ih =>
    obtain ⟨name, old⟩ := head
    obtain ⟨hlt, hrest⟩ := List.pairwise_cons.mp ho
    by_cases hk : key = name
    · subst key
      have hn : (name, value) ∉ rest := fun h => String.lt_irrefl name (hlt _ h)
      simp [find?, hn, eq_comm]
    · simp [find?, hk, ih hrest]

private theorem mem_entries {m : KeyMap α} {key : String} {value : α} :
    (key, value) ∈ m.entries ↔ m.get? key = some value :=
  (find?_iff_mem key value m.ascending).symm

theorem mem_keys {m : KeyMap α} {key : String} :
    key ∈ m.keys ↔ ∃ value, m.get? key = some value := by
  simp only [keys, List.mem_map, Prod.exists, exists_and_right, exists_eq_right, mem_entries]

private theorem eq_of_get? {a b : KeyMap α} (h : ∀ key, a.get? key = b.get? key) : a = b := by
  have hasymm : Std.Antisymm fun e f : String × α => e.1 < f.1 :=
    ⟨fun _ _ h h' => absurd (String.lt_trans h h') (String.lt_irrefl _)⟩
  have hirrefl : Std.Irrefl fun e f : String × α => e.1 < f.1 := ⟨fun _ => String.lt_irrefl _⟩
  apply KeyMap.ext
  apply a.ascending.eq_of_mem_iff b.ascending
  rintro ⟨key, value⟩
  rw [mem_entries, mem_entries, h key]

theorem insert_insert (m : KeyMap α) (key : String) (old new : α) :
    (m.insert key old).insert key new = m.insert key new := by
  apply eq_of_get?
  intro other
  simp only [get?_insert]
  split <;> rfl

theorem erase_insert (m : KeyMap α) (key : String) (value : α) :
    (m.insert key value).erase key = m.erase key := by
  apply eq_of_get?
  intro other
  simp only [get?_erase, get?_insert]
  split <;> rfl

theorem erase_of_absent {m : KeyMap α} {key : String} (h : m.get? key = none) :
    m.erase key = m := by
  apply eq_of_get?
  intro other
  rw [get?_erase]
  split
  · rename_i hk
    rw [hk, h]
  · rfl

theorem getD_filter_isEmpty (m : Option (KeyMap α)) :
    (m.filter (!·.isEmpty)).getD ∅ = m.getD ∅ := by
  cases m with
  | none => rfl
  | some entries =>
    cases he : entries.isEmpty with
    | false => simp [Option.filter, he]
    | true =>
      have hnil : entries = ∅ := KeyMap.ext (List.isEmpty_iff.mp he)
      rw [hnil]
      rfl

end BlobStore.KeyMap
