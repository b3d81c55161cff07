/-!
# Maps from text keys

A finite map whose entries are kept in ascending key order. Strings are ordered by code point,
which is also the order of their UTF-8 bytes, so listing the entries gives byte order.
-/

namespace BlobStore

namespace KeyMap

variable {α : Type}

/-- Puts a value under a key, in place of the value already there. -/
def place (key : String) (value : α) : List (String × α) → List (String × α)
  | [] => [(key, value)]
  | (other, old) :: rest =>
    if key < other then (key, value) :: (other, old) :: rest
    else if key = other then (key, value) :: rest
    else (other, old) :: place key value rest

def find? (key : String) : List (String × α) → Option α
  | [] => none
  | (other, value) :: rest => if key = other then some value else find? key rest

private theorem mem_place {key : String} {value : α} {entries : List (String × α)}
    {e : String × α} (h : e ∈ place key value entries) : e = (key, value) ∨ e ∈ entries := by
  induction entries with
  | nil => simpa [place] using h
  | cons head rest ih =>
    obtain ⟨other, old⟩ := head
    unfold place at h
    split at h
    · simpa using h
    · split at h
      · rcases List.mem_cons.mp h with h | h
        · exact Or.inl h
        · exact Or.inr (List.mem_cons_of_mem _ h)
      · rcases List.mem_cons.mp h with h | h
        · exact Or.inr (h ▸ List.mem_cons_self)
        · rcases ih h with h | h
          · exact Or.inl h
          · exact Or.inr (List.mem_cons_of_mem _ h)

private theorem pairwise_place {key : String} {value : α} {entries : List (String × α)}
    (h : entries.Pairwise (·.1 < ·.1)) : (place key value entries).Pairwise (·.1 < ·.1) := by
  induction entries with
  | nil => simp [place]
  | cons head rest ih =>
    obtain ⟨other, old⟩ := head
    obtain ⟨below, ordered⟩ := List.pairwise_cons.mp h
    unfold place
    split
    · rename_i less
      refine List.pairwise_cons.mpr ⟨fun e he => ?_, h⟩
      rcases List.mem_cons.mp he with rfl | he
      · exact less
      · exact String.lt_trans less (below e he)
    · split
      · rename_i _ same
        subst same
        exact List.pairwise_cons.mpr ⟨below, ordered⟩
      · rename_i notLess notSame
        refine List.pairwise_cons.mpr ⟨fun e he => ?_, ih ordered⟩
        rcases mem_place he with rfl | he
        · rcases Classical.em (other < key) with less | notAbove
          · exact less
          · exact absurd (String.le_antisymm (String.not_lt.mp notAbove)
              (String.not_lt.mp notLess)) notSame
        · exact below e he

end KeyMap

/-- Entries with distinct keys, in ascending key order. -/
structure KeyMap (α : Type) where
  entries : List (String × α)
  ascending : entries.Pairwise (·.1 < ·.1)

namespace KeyMap

variable {α : Type}

instance : EmptyCollection (KeyMap α) := ⟨⟨[], .nil⟩⟩
instance : Inhabited (KeyMap α) := ⟨∅⟩

instance [DecidableEq α] : DecidableEq (KeyMap α) := fun a b =>
  if h : a.entries = b.entries then
    isTrue (by cases a; cases b; cases h; rfl)
  else isFalse fun e => h (e ▸ rfl)

def keys (m : KeyMap α) : List String := m.entries.map (·.1)

def isEmpty (m : KeyMap α) : Bool := m.entries.isEmpty

def size (m : KeyMap α) : Nat := m.entries.length

def get? (m : KeyMap α) (key : String) : Option α := find? key m.entries

def contains (m : KeyMap α) (key : String) : Bool := (m.get? key).isSome

def insert (m : KeyMap α) (key : String) (value : α) : KeyMap α :=
  ⟨place key value m.entries, pairwise_place m.ascending⟩

def erase (m : KeyMap α) (key : String) : KeyMap α :=
  ⟨m.entries.filter (·.1 != key), m.ascending.filter _⟩

/-- Of several values for one key the last is kept. -/
def ofList (entries : List (String × α)) : KeyMap α :=
  entries.foldl (fun m e => m.insert e.1 e.2) ∅

@[ext] theorem ext {a b : KeyMap α} (h : a.entries = b.entries) : a = b := by
  cases a; cases b; cases h; rfl

@[simp] theorem get?_empty (key : String) : (∅ : KeyMap α).get? key = none := rfl

private theorem find?_place (key other : String) (value : α) (entries : List (String × α)) :
    find? other (place key value entries) = if other = key then some value else find? other entries := by
  induction entries with
  | nil => simp [place, find?]
  | cons head rest ih =>
    obtain ⟨name, old⟩ := head
    unfold place
    split
    · simp [find?]
    · split
      · rename_i same
        subst same
        by_cases h : other = key <;> simp [find?, h]
      · rename_i different
        by_cases h : other = name
        · subst h
          simp [find?, Ne.symm different]
        · simp [find?, h, ih]

theorem get?_insert (m : KeyMap α) (key other : String) (value : α) :
    (m.insert key value).get? other = if other = key then some value else m.get? other :=
  find?_place key other value m.entries

@[simp] theorem get?_insert_self (m : KeyMap α) (key : String) (value : α) :
    (m.insert key value).get? key = some value := by simp [get?_insert]

private theorem find?_filter_ne (key other : String) (entries : List (String × α)) :
    find? other (entries.filter (·.1 != key)) = if other = key then none else find? other entries := by
  induction entries with
  | nil => simp [find?]
  | cons head rest ih =>
    obtain ⟨name, old⟩ := head
    by_cases h : name = key
    · subst h
      by_cases hn : other = name <;> simp_all [find?]
    · by_cases hn : other = name
      · subst hn
        simp [find?, h]
      · simp [find?, h, hn, ih]

theorem get?_erase (m : KeyMap α) (key other : String) :
    (m.erase key).get? other = if other = key then none else m.get? other :=
  find?_filter_ne key other m.entries

end KeyMap

end BlobStore
