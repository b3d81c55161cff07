import BlobStore.Proofs.Action
import BlobStore.Proofs.Listing.Pages

/-!
# Tokens of a listing

A page ends with the row that its token names, and what is asked for by the token begins with the
row after that.
-/

namespace BlobStore

/-- How many rows a page holds at most. -/
def pageBound (pageSize : Nat) : Nat := min (if pageSize = 0 then 1000 else pageSize) (2 ^ 31 - 1)

theorem pageBound_pos (pageSize : Nat) : 0 < pageBound pageSize := by
  unfold pageBound
  split <;> omega

/-- What is asked for by the options, after the row that the token names. -/
def queryAfter (name stem delimiter : String) (pageSize : Nat) (token : Option String) : ListQuery :=
  { bucket := name
    stem := if stem.isEmpty then none else some stem
    delimiter := if delimiter.isEmpty then none else some delimiter
    maxKeys := some (pageBound pageSize : Nat)
    continuationToken := token
    startAfter := none }

private theorem isEmpty_toUTF8 {s : String} (h : s ≠ "") : s.toUTF8.isEmpty = false := by
  rw [Bool.eq_false_iff]
  intro he
  apply h
  rw [← String.toByteArray_inj]
  simpa [ByteArray.isEmpty, String.toUTF8_eq_toByteArray] using he

theorem query_eq {o : ListOptions} (name : String) {token : Option String}
    (ht : o.pageToken = token.map String.toUTF8) (hn : token ≠ some "") :
    o.query name = .ok (queryAfter name o.stem o.delimiter o.pageSize token) := by
  unfold ListOptions.query
  cases token with
  | none =>
    rw [ht]
    rfl
  | some text =>
    have hkeep := isEmpty_toUTF8 fun he => hn (he ▸ rfl)
    rw [ht]
    simp only [Option.map_some, Option.filter_some, hkeep, Bool.not_false, if_true,
      Text.fromUTF8?_toUTF8]
    rfl

section Page

variable {σ : Type} {b : Bucket σ} {o : ListOptions} {q : ListQuery} {s t : σ}

theorem listPage_of_query (hq : o.query b.name = .ok q) :
    b.listPage o pure = (do return .ofListed (← b.request (.list q))) := by
  unfold Bucket.listPage
  rw [hq]
  rfl

theorem listPage_eq {l : Listed} (hq : o.query b.name = .ok q)
    (hs : b.serve (.list q) s = (.ok l, t)) : b.listPage o pure s = (.ok (.ofListed l), t) := by
  rw [listPage_of_query hq]
  exact bind_of_ok (Bucket.request_of_granted hs) _

theorem listPage_refused {why : Fault} (hq : o.query b.name = .ok q)
    (hs : b.serve (.list q) s = (.error why, t)) :
    b.listPage o pure s = (.error (.ofFault why), t) := by
  rw [listPage_of_query hq]
  exact bind_of_error (Bucket.request_of_refused hs) _

end Page

namespace Memory

/-- What a token has before it, and what is left after it. The empty text is no token. -/
def Separates (token : Option String) (front back : List String) : Prop :=
  match token with
  | none => front = []
  | some name => name ≠ "" ∧ (∀ key ∈ front, key ≤ name) ∧ ∀ key ∈ back, name < key

private theorem filter_after {front back : List Row} {name : String}
    (hsep : Separates (some name) (front.map (·.name)) (back.map (·.name))) :
    (front ++ back).filter (fun row => decide (name < row.name)) = back := by
  obtain ⟨-, hfront, hback⟩ := hsep
  have hdrop : front.filter (fun row => decide (name < row.name)) = [] := by
    rw [List.filter_eq_nil_iff]
    intro row hrow
    rw [decide_eq_true_eq]
    exact String.not_lt.mpr (hfront _ (List.mem_map_of_mem hrow))
  have hkeep : back.filter (fun row => decide (name < row.name)) = back := by
    rw [List.filter_eq_self]
    intro row hrow
    rw [decide_eq_true_eq]
    exact hback _ (List.mem_map_of_mem hrow)
  rw [List.filter_append, hdrop, hkeep, List.nil_append]

private theorem name_ne_empty {m : Memory} (hkeys : m.objects.get? "" = none)
    {stem delimiter : String} {row : Row} (hrow : row ∈ m.rows stem (cutting delimiter)) :
    row.name ≠ "" := by
  intro he
  obtain ⟨key, o, ho, hof⟩ := mem_rows.mp hrow
  rcases rowOf?_eq_some.mp hof with ⟨rfl, _⟩ | ⟨_, hd, _, left, _, _, _, hname⟩
  · obtain rfl : key = "" := he
    rw [hkeys] at ho
    cases ho
  · rw [he] at hname
    have hnil := List.append_eq_nil_iff.mp (List.append_eq_nil_iff.mp hname.symm).2
    exact hd (String.toList_inj.mp hnil.2)

theorem separates_last {front back : List String} {last : String}
    (hasc : (front ++ back).Pairwise (· < ·)) (hlast : front.getLast? = some last)
    (hne : last ≠ "") : Separates (some last) front back := by
  obtain ⟨init, rfl⟩ := List.getLast?_eq_some_iff.mp hlast
  obtain ⟨hfront, -, hback⟩ := List.pairwise_append.mp hasc
  refine ⟨hne, ?_, fun key hkey => hback last (by simp) key hkey⟩
  intro key hkey
  rcases List.mem_append.mp hkey with hinit | hsame
  · exact Std.le_of_lt ((List.pairwise_append.mp hfront).2.2 key hinit last (by simp))
  · obtain rfl := List.mem_singleton.mp hsame
    exact String.le_refl _

/-- The rows so far are separated from the others by the name of the last of them. -/
theorem separates_rows {m : Memory} (hkeys : m.objects.get? "" = none) {stem delimiter : String}
    {front back : List Row} (hrows : m.rows stem (cutting delimiter) = front ++ back) :
    Separates (front.getLast?.map (·.name)) (front.map (·.name)) (back.map (·.name)) := by
  cases hlast : front.getLast? with
  | none =>
    rw [List.getLast?_eq_none_iff.mp hlast]
    rfl
  | some last =>
    have hasc := List.pairwise_map.mpr (m.rows_ascending stem delimiter)
    rw [hrows, List.map_append] at hasc
    have hmem : last ∈ m.rows stem (cutting delimiter) := by
      rw [hrows]
      exact List.mem_append_left back (List.mem_of_getLast? hlast)
    refine separates_last hasc ?_ (name_ne_empty hkeys hmem)
    rw [List.getLast?_map, hlast]
    rfl

theorem Separates.ne_empty {token : Option String} {front back : List String}
    (h : Separates token front back) : token ≠ some "" := by
  rintro rfl
  exact h.1 rfl

/-- The answer with the first of the rows that are left. -/
def firstPage (m : Memory) (pageSize : Nat) (back : List Row) : Listed :=
  m.listed (back.take (pageBound pageSize)) <|
    if pageBound pageSize < back.length then
      (back.take (pageBound pageSize)).getLast?.map (·.name)
    else none

theorem list_queryAfter {m : Memory} (name : String) {stem delimiter : String} (pageSize : Nat)
    {token : Option String} {front back : List Row}
    (hsep : Separates token (front.map (·.name)) (back.map (·.name)))
    (hrows : m.rows stem (cutting delimiter) = front ++ back) :
    m.list (queryAfter name stem delimiter pageSize token) = .ok (m.firstPage pageSize back) := by
  have hstem : (if stem.isEmpty then none else some stem).getD "" = stem := by
    by_cases hs : stem = "" <;> simp [hs]
  have hdelimiter : (if delimiter.isEmpty then none else some delimiter).filter (!·.isEmpty) =
      cutting delimiter := by
    by_cases hd : delimiter = "" <;> simp [hd, cutting]
  have hlimit : (max (pageBound pageSize : Int) 1).toNat = pageBound pageSize := by
    have hpos := pageBound_pos pageSize
    omega
  unfold list queryAfter
  rw [if_neg hsep.ne_empty]
  simp only [hstem, hdelimiter, hrows, Option.getD_some, hlimit]
  cases token with
  | none =>
    rw [List.map_eq_nil_iff.mp hsep]
    rfl
  | some last =>
    simp only [filter_after hsep]
    rfl

theorem entries_firstPage {m : Memory} {stem delimiter : String} {front back : List Row}
    (hrows : m.rows stem (cutting delimiter) = front ++ back) (pageSize : Nat) :
    (ListPage.ofListed (m.firstPage pageSize back)).entries =
      (back.take (pageBound pageSize)).map m.rowEntry := by
  have hlistable : m.Listable (back.take (pageBound pageSize)) := by
    apply listable_of_sublist
    rw [hrows]
    exact (List.take_sublist _ _).trans (List.sublist_append_right _ _)
  exact entries_ofListed hlistable _

theorem nextToken_firstPage_of_le (m : Memory) {pageSize : Nat} {back : List Row}
    (h : back.length ≤ pageBound pageSize) :
    (ListPage.ofListed (m.firstPage pageSize back)).nextToken = none := by
  unfold firstPage
  rw [if_neg (by omega)]
  rfl

theorem nextToken_firstPage_of_last (m : Memory) {pageSize : Nat} {back : List Row} {last : Row}
    (hmore : pageBound pageSize < back.length)
    (hlast : (back.take (pageBound pageSize)).getLast? = some last) (hname : last.name ≠ "") :
    (ListPage.ofListed (m.firstPage pageSize back)).nextToken = some last.name.toUTF8 := by
  simp only [firstPage, if_pos hmore, ListPage.ofListed, listed, hlast, Option.map_some]
  rw [Option.filter_some, if_pos (by simpa using hname)]
  rfl

theorem exists_getLast?_take {α : Type} (pageSize : Nat) {back : List α}
    (hmore : pageBound pageSize < back.length) :
    ∃ last, (back.take (pageBound pageSize)).getLast? = some last := by
  have hpos := pageBound_pos pageSize
  rw [← Option.isSome_iff_exists, List.getLast?_isSome]
  intro hnil
  have hlen := congrArg List.length hnil
  rw [List.length_take, List.length_nil] at hlen
  omega

theorem nextToken_firstPage_of_lt {m : Memory} (hkeys : m.objects.get? "" = none)
    {stem delimiter : String} {pageSize : Nat} {front back : List Row}
    (hrows : m.rows stem (cutting delimiter) = front ++ back)
    (hmore : pageBound pageSize < back.length) :
    ∃ last, (back.take (pageBound pageSize)).getLast? = some last ∧
      (ListPage.ofListed (m.firstPage pageSize back)).nextToken = some last.name.toUTF8 := by
  obtain ⟨last, hlast⟩ := exists_getLast?_take pageSize hmore
  have hmem : last ∈ m.rows stem (cutting delimiter) := by
    rw [hrows]
    exact List.mem_append_right front (List.mem_of_mem_take (List.mem_of_getLast? hlast))
  exact ⟨last, hlast, m.nextToken_firstPage_of_last hmore hlast (name_ne_empty hkeys hmem)⟩

end Memory

end BlobStore
