import BlobStore.Instances

/-!
# Cutting and padding text

Text is cut at the first place where a character or a word occurs, and padded to a width counted
in characters.
-/

namespace BlobStore.Text

/-- The text before and after the first `c`. -/
def cutAt (c : Char) : List Char → Option (List Char × List Char)
  | [] => none
  | d :: rest =>
    if d = c then some ([], rest) else (cutAt c rest).map fun p => (d :: p.1, p.2)

/-- The text before and after the first occurrence of `word`. -/
def cutAtWord (word : List Char) : List Char → Option (List Char × List Char)
  | [] => if word.isEmpty then some ([], []) else none
  | d :: rest =>
    match word.isPrefixOf? (d :: rest) with
    | some after => some ([], after)
    | none => (cutAtWord word rest).map fun p => (d :: p.1, p.2)

theorem eq_of_cutAt {c : Char} {text left right : List Char} (h : cutAt c text = some (left, right)) :
    text = left ++ c :: right ∧ c ∉ left := by
  induction text generalizing left right with
  | nil => simp [cutAt] at h
  | cons d rest ih =>
    unfold cutAt at h
    split at h
    · rename_i same
      simp_all
    · rename_i different
      obtain ⟨⟨l, r⟩, found, same⟩ := Option.map_eq_some_iff.mp h
      obtain ⟨rfl, rfl⟩ := Prod.mk.inj same
      obtain ⟨whole, absent⟩ := ih found
      exact ⟨by simp [whole], by simp [absent, Ne.symm different]⟩

theorem cutAt_eq_none {c : Char} {text : List Char} : cutAt c text = none ↔ c ∉ text := by
  induction text with
  | nil => simp [cutAt]
  | cons d rest ih => by_cases h : d = c <;> (simp [cutAt, h, ih]; try grind)

theorem cutAt_append {c : Char} {left right : List Char} (h : c ∉ left) :
    cutAt c (left ++ c :: right) = some (left, right) := by
  induction left with
  | nil => simp [cutAt]
  | cons d rest ih =>
    have different : d ≠ c := by rintro rfl; simp at h
    simp only [List.mem_cons, not_or] at h
    simp [cutAt, different, ih h.2]

theorem eq_of_isPrefixOf? {word text after : List Char} (h : word.isPrefixOf? text = some after) :
    text = word ++ after := by
  induction word generalizing text with
  | nil => exact Option.some.inj h
  | cons c word ih =>
    cases text with
    | nil =>
      have hnone : none = some after := h
      cases hnone
    | cons d text =>
      have hrest : (if c == d then word.isPrefixOf? text else none) = some after := h
      split at hrest
      · rename_i same
        simp [ih hrest, eq_of_beq same]
      · cases hrest

def cut? (c : Char) (s : String) : Option (String × String) :=
  (cutAt c s.toList).map fun p => (String.ofList p.1, String.ofList p.2)

def cutWord? (word s : String) : Option (String × String) :=
  (cutAtWord word.toList s.toList).map fun p => (String.ofList p.1, String.ofList p.2)

def containsWord (word s : String) : Bool := (cutAtWord word.toList s.toList).isSome

theorem mem_intercalate {c : Char} {separator : List Char} {parts : List (List Char)}
    (h : c ∈ separator.intercalate parts) : c ∈ separator ∨ ∃ part ∈ parts, c ∈ part := by
  induction parts with
  | nil => simp at h
  | cons part rest ih =>
    cases rest with
    | nil =>
      rw [List.intercalate_singleton] at h
      exact .inr ⟨part, List.mem_cons_self, h⟩
    | cons next rest =>
      rw [List.intercalate_cons_cons, List.mem_append, List.mem_append] at h
      rcases h with (hpart | hseparator) | hrest
      · exact .inr ⟨part, List.mem_cons_self, hpart⟩
      · exact .inl hseparator
      · rcases ih hrest with hseparator | ⟨found, hfound, hc⟩
        · exact .inl hseparator
        · exact .inr ⟨found, List.mem_cons_of_mem part hfound, hc⟩

/-- Puts `fill` in front until the text is `width` characters long. -/
def padLeft (fill : Char) (width : Nat) (text : List Char) : List Char :=
  List.replicate (width - text.length) fill ++ text

def alignRight (width : Nat) (s : String) : String := String.ofList (padLeft ' ' width s.toList)

def alignLeft (width : Nat) (s : String) : String :=
  s ++ String.ofList (List.replicate (width - s.toList.length) ' ')

def lowercase (s : String) : String := String.ofList (s.toList.map Char.toLower)

end BlobStore.Text
