import Mathlib.Algebra.BigOperators.Ring.Finset
import BlobStore.Cli.Browse

/-!
# Sums in a word

The summary of a listing adds up sizes in a word of 64 bits. A checked build has no sum that such a
word does not hold; a release build has what is left of it modulo 2 ^ 64.
-/

namespace BlobStore.Cli

private theorem Build.add?_eq (b : Build) (total : UInt64) (n : Nat) : b.add? total n =
    if b = .checked ∧ UInt64.size ≤ total.toNat + n then none
    else some (UInt64.ofNat (total.toNat + n)) := by
  unfold add?
  rw [UInt64.ofNat_add, UInt64.ofNat_toNat]

private theorem Build.foldlM_add? (b : Build) (sizes : List Nat) (total : UInt64) :
    sizes.foldlM b.add? total = if b = .checked ∧ UInt64.size ≤ total.toNat + sizes.sum then none
      else some (UInt64.ofNat (total.toNat + sizes.sum)) := by
  induction sizes generalizing total with
  | nil =>
    have hlt := total.toNat_lt_size
    rw [List.sum_nil, Nat.add_zero, if_neg (by omega), UInt64.ofNat_toNat]
    rfl
  | cons n sizes ih =>
    rw [List.foldlM_cons, add?_eq, List.sum_cons, ← Nat.add_assoc]
    by_cases hover : b = .checked ∧ UInt64.size ≤ total.toNat + n
    · rw [if_pos hover, if_pos ⟨hover.1, Nat.le_add_right_of_le hover.2⟩]
      rfl
    · rw [if_neg hover]
      refine (ih (UInt64.ofNat (total.toNat + n))).trans ?_
      -- A release build may have wrapped around by now, which the sum modulo 2 ^ 64 does not show.
      cases b with
      | checked =>
        have hlt : total.toNat + n < UInt64.size := Nat.lt_of_not_le fun hle => hover ⟨rfl, hle⟩
        rw [UInt64.toNat_ofNat_of_lt' hlt]
      | release =>
        rw [if_neg (by simp), if_neg (by simp), UInt64.ofNat_add, UInt64.ofNat_toNat,
          UInt64.ofNat_add _ sizes.sum]

namespace Browse

/-- The sizes of the entries that are objects. -/
def objectSizes (entries : List ListEntry) : List Nat := (entries.filter (!·.isDir)).map (·.size)

theorem Summary.of?_eq (b : Build) (entries : List ListEntry) : of? b entries =
    if b = .checked ∧ UInt64.size ≤ (objectSizes entries).sum then none
    else some
      { objects := (entries.filter (!·.isDir)).length
        directories := (entries.filter (·.isDir)).length
        bytes := UInt64.ofNat (objectSizes entries).sum } := by
  have hsum := b.foldlM_add? (objectSizes entries) 0
  rw [UInt64.toNat_zero, Nat.zero_add] at hsum
  unfold of?
  dsimp only
  rw [← objectSizes, hsum]
  split <;> rfl

theorem Summary.of?_isSome_iff {b : Build} {entries : List ListEntry} :
    (of? b entries).isSome = true ↔ (b = .checked → (objectSizes entries).sum < UInt64.size) := by
  rw [of?_eq]
  split
  · rename_i h
    refine ⟨fun hsome => ?_, fun hlt => absurd (hlt h.1) (Nat.not_lt.mpr h.2)⟩
    cases hsome
  · rename_i h
    exact ⟨fun _ hb => Nat.lt_of_not_le fun hle => h ⟨hb, hle⟩, fun _ => rfl⟩

theorem Summary.eq_of_of? {b : Build} {entries : List ListEntry} {summary : Summary}
    (h : of? b entries = some summary) : summary =
      { objects := (entries.filter (!·.isDir)).length
        directories := (entries.filter (·.isDir)).length
        bytes := UInt64.ofNat (objectSizes entries).sum } := by
  rw [of?_eq] at h
  split at h
  · cases h
  · exact (Option.some.inj h).symm

section Conclude

variable {σ : Type} {style : Style} {b : Build} {entries : List ListEntry}

theorem conclude_of_some {summary : Summary} (h : Summary.of? b entries = some summary)
    (token : Option String) (d : Desk σ) : conclude style b entries token true d =
      (.ok .success, { d with
        terminal := Report.print style ⟨entries, token, some summary⟩ d.terminal }) := by
  unfold conclude
  rw [h]
  rfl

theorem conclude_of_none (h : Summary.of? b entries = none) (token : Option String) (d : Desk σ) :
    conclude style b entries token true d =
      (.error .panicked, { d with terminal := cutShort style entries d.terminal }) := by
  unfold conclude
  rw [h]
  rfl

end Conclude

end Browse

end BlobStore.Cli
