import BlobStore.Text.Cut
import Mathlib.Data.List.Basic

/-!
# Where text is cut

A text is cut at the first place where a word occurs, and not at all if the word does not occur.
-/

namespace BlobStore.Text

/-- The text is `left` and `right` around the first `word` in it. -/
structure FirstAt (word text left right : List Char) : Prop where
  eq : text = left ++ word ++ right
  first : ∀ left' right', text = left' ++ word ++ right' → left.length ≤ left'.length

theorem isPrefixOf?_append (word after : List Char) :
    word.isPrefixOf? (word ++ after) = some after := by
  induction word with
  | nil => simp [List.isPrefixOf?]
  | cons c word ih => simp [List.isPrefixOf?, ih]

theorem isPrefixOf?_eq_some {word text after : List Char} :
    word.isPrefixOf? text = some after ↔ text = word ++ after := by
  constructor
  · exact eq_of_isPrefixOf?
  · rintro rfl
    exact isPrefixOf?_append word after

private theorem isPrefixOf?_eq_none {word text : List Char} :
    word.isPrefixOf? text = none ↔ ¬word <+: text := by
  rw [Option.eq_none_iff_forall_ne_some]
  constructor
  · rintro h ⟨after, rfl⟩
    exact h after (isPrefixOf?_append word after)
  · intro h after ha
    exact h ⟨after, (isPrefixOf?_eq_some.mp ha).symm⟩

theorem firstAt_of_cutAtWord {word text left right : List Char}
    (h : cutAtWord word text = some (left, right)) : FirstAt word text left right := by
  induction text generalizing left right with
  | nil =>
    unfold cutAtWord at h
    split at h
    · rename_i he
      obtain rfl := List.isEmpty_iff.mp he
      cases h
      exact ⟨rfl, fun _ _ _ => Nat.zero_le _⟩
    · cases h
  | cons d rest ih =>
    unfold cutAtWord at h
    split at h
    · rename_i after ha
      cases h
      exact ⟨isPrefixOf?_eq_some.mp ha, fun _ _ _ => Nat.zero_le _⟩
    · rename_i hnone
      obtain ⟨⟨l, r⟩, hfound, he⟩ := Option.map_eq_some_iff.mp h
      cases he
      obtain ⟨heq, hfirst⟩ := ih hfound
      refine ⟨by rw [heq]; rfl, ?_⟩
      intro left' right' hother
      cases left' with
      | nil => exact absurd ⟨right', hother.symm⟩ (isPrefixOf?_eq_none.mp hnone)
      | cons c left' =>
        obtain ⟨rfl, hrest⟩ := List.cons.inj hother
        exact Nat.succ_le_succ (hfirst left' right' hrest)

theorem cutAtWord_eq_none {word text : List Char} : cutAtWord word text = none ↔ ¬word <:+: text := by
  induction text with
  | nil =>
    cases word with
    | nil => simp [cutAtWord]
    | cons c word => simp [cutAtWord]
  | cons d rest ih =>
    rw [List.infix_cons_iff, not_or, cutAtWord]
    cases hp : word.isPrefixOf? (d :: rest) with
    | some after =>
      have hpre : word <+: d :: rest := ⟨after, (isPrefixOf?_eq_some.mp hp).symm⟩
      simp [hpre]
    | none =>
      have hpre := isPrefixOf?_eq_none.mp hp
      simp only [Option.map_eq_none_iff, ih, hpre, not_false_eq_true, true_and]

theorem FirstAt.unique {word text left right left' right' : List Char}
    (h : FirstAt word text left right) (h' : FirstAt word text left' right') :
    left = left' ∧ right = right' := by
  have hlen : left.length = left'.length :=
    Nat.le_antisymm (h.first _ _ h'.eq) (h'.first _ _ h.eq)
  have heq : left ++ (word ++ right) = left' ++ (word ++ right') := by
    rw [← List.append_assoc, ← List.append_assoc, ← h.eq, ← h'.eq]
  obtain ⟨hleft, hrest⟩ := List.append_inj heq hlen
  exact ⟨hleft, List.append_cancel_left hrest⟩

theorem cutAtWord_eq_some {word text left right : List Char} :
    cutAtWord word text = some (left, right) ↔ FirstAt word text left right := by
  refine ⟨firstAt_of_cutAtWord, ?_⟩
  intro h
  cases hcut : cutAtWord word text with
  | none => exact absurd ⟨left, right, h.eq.symm⟩ (cutAtWord_eq_none.mp hcut)
  | some cut =>
    obtain ⟨left', right'⟩ := cut
    obtain ⟨rfl, rfl⟩ := (firstAt_of_cutAtWord hcut).unique h
    rfl

/-- A word whose first character does not come again in it cannot reach into a text from behind, so it
is first where the text before it does not hold it. -/
theorem firstAt_append_iff {c : Char} {tail left right : List Char} (hc : c ∉ tail) :
    FirstAt (c :: tail) (left ++ c :: tail ++ right) left right ↔ ¬c :: tail <:+: left := by
  constructor
  · rintro ⟨-, hfirst⟩ ⟨before, after, rfl⟩
    have hle := hfirst before (after ++ c :: tail ++ right) (by simp only [List.append_assoc])
    simp only [List.length_append, List.length_cons] at hle
    omega
  · intro hleft
    refine ⟨rfl, ?_⟩
    intro left' right' heq
    by_contra hlt
    rw [List.append_assoc, List.append_assoc] at heq
    rcases List.append_eq_append_iff.mp heq with ⟨between, rfl, -⟩ | ⟨between, rfl, hrest⟩
    · simp at hlt
    · -- The two occurrences begin at different places, and the earlier one ends in `left` or behind it.
      rcases List.append_eq_append_iff.mp hrest with ⟨more, rfl, -⟩ | ⟨more, hword, htail⟩
      · exact hleft ⟨left', more, by rw [List.append_assoc]⟩
      · cases between with
        | nil => simp at hlt
        | cons d between =>
          obtain ⟨rfl, rfl⟩ := List.cons.inj hword
          cases more with
          | nil => exact hleft ⟨left', [], by simp⟩
          | cons e more =>
            obtain ⟨rfl, -⟩ := List.cons.inj htail
            exact hc (List.mem_append_right between List.mem_cons_self)

theorem isInfix_of_append {c : Char} {word left right : List Char} (hc : c ∉ left)
    (h : c :: word <:+: left ++ right) : c :: word <:+: right := by
  induction left with
  | nil => exact h
  | cons d left ih =>
    rw [List.mem_cons, not_or] at hc
    apply ih hc.2
    rcases List.infix_cons_iff.mp h with hprefix | hinfix
    · obtain ⟨rest, heq⟩ := hprefix
      exact absurd (List.cons.inj heq).1 hc.1
    · exact hinfix

theorem cutAt_append_right {c : Char} {left : List Char} (hc : c ∉ left) (right : List Char) :
    cutAt c (left ++ right) = (cutAt c right).map fun p => (left ++ p.1, p.2) := by
  induction left with
  | nil => simp
  | cons d left ih =>
    rw [List.mem_cons, not_or] at hc
    rw [List.cons_append, cutAt, if_neg (Ne.symm hc.1), ih hc.2, Option.map_map]
    rfl

end BlobStore.Text
