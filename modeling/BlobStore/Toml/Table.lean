import BlobStore.Toml.Value

/-!
# Tables of TOML

How keys and headings add up to a table. Nothing is given twice: a key has one value, a table one
heading, and what stands between braces is complete.
-/

namespace BlobStore.Toml.Table

/-- Puts a value under a name, in place of the one already there. -/
def put (name : String) (value : Value) : Entries → Entries
  | [] => [(name, value)]
  | (other, old) :: rest =>
    if other = name then (name, value) :: rest else (other, old) :: put name value rest

theorem put_append {before : Entries} {name : String} (hbefore : before.lookup name = none)
    (value : Value) (after : Entries) :
    put name value (before ++ after) = before ++ put name value after := by
  induction before with
  | nil => rfl
  | cons entry before ih =>
    obtain ⟨other, old⟩ := entry
    rw [List.lookup_cons] at hbefore
    split at hbefore
    · cases hbefore
    · rename_i hne
      have hne : ¬other = name := fun h => absurd hne (by simp [h])
      rw [List.cons_append, put, if_neg hne, ih hbefore, List.cons_append]

/-- Changes the table that a path leads to, making those that are missing. The path is part of a
dotted key or of a heading; a dotted key does not lead into tables that have headings. -/
def within (dotted : Bool) (change : Origin → Entries → Option Entries) :
    List String → Origin → Entries → Option Entries
  | [], origin, entries => change origin entries
  | name :: path, _, entries =>
    match entries.lookup name with
    | none =>
      let origin := if dotted then Origin.dotted else .implied
      (within dotted change path origin []).map fun inner => put name (.table origin inner) entries
    | some (.table origin inner) =>
      if origin = .inline ∨ (dotted ∧ origin = .headed) then none
      else (within dotted change path origin inner).map fun inner =>
        put name (.table origin inner) entries
    | some (.series last earlier) =>
      (within dotted change path .headed last).map fun last => put name (.series last earlier) entries
    | some _ => none

/-- Gives a key its value. The table of a dotted key must have come about by dotted keys. -/
def assign (key : List String) (value : Value) (entries : Entries) : Option Entries :=
  match key.reverse with
  | [] => none
  | name :: path =>
    within true (fun origin inner =>
      if (origin = .dotted) = path.isEmpty ∨ (inner.lookup name).isSome then none
      else some (put name value inner)) path.reverse .headed entries

/-- Gives several keys their values. -/
def assignAll (pairs : List (List String × Value)) (entries : Entries) : Option Entries :=
  pairs.foldlM (fun entries pair => assign pair.1 pair.2 entries) entries

structure Heading where
  path : List String
  /-- Written in double brackets, it begins the next table of a series. -/
  isSeries : Bool
  deriving DecidableEq, Repr

/-- Adds the keys below a heading. A table may have been mentioned before its heading. -/
def attach (heading : Heading) (pairs : List (List String × Value)) (entries : Entries) :
    Option Entries :=
  match heading.path.reverse with
  | [] => none
  | name :: path =>
    within false (fun _ inner =>
      match heading.isSeries, inner.lookup name with
      | true, none => (assignAll pairs []).map fun table => put name (.series table []) inner
      | true, some (.series last earlier) =>
        (assignAll pairs []).map fun table => put name (.series table (last :: earlier)) inner
      | false, none => (assignAll pairs []).map fun table => put name (.table .headed table) inner
      | false, some (.table .implied old) =>
        (assignAll pairs old).map fun table => put name (.table .headed table) inner
      | _, _ => none) path.reverse .headed entries

end BlobStore.Toml.Table
