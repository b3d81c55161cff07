import BlobStore.Proofs.Action
import BlobStore.Proofs.Listing.Paging

/-!
# Sweeping over a listing

A sweep goes through a listing and does something at each entry, page after page. What it does may
well remove the objects it comes across: a token names the place where a page ended, whether there
is an object left under that name or not.
-/

namespace BlobStore

namespace Memory

/-- The stored keys that start with the stem, in ascending order. -/
def below (m : Memory) (stem : String) : List String :=
  m.objects.keys.filter fun key => stem.toList.isPrefixOf key.toList

/-- The memory with the objects under some keys gone. -/
def without (m : Memory) (keys : List String) : Memory :=
  { m with objects := keys.foldl KeyMap.erase m.objects }

variable {m : Memory} {stem key : String} {keys : List String}

private theorem mem_below :
    key ∈ m.below stem ↔ (∃ o, m.objects.get? key = some o) ∧ stem.toList <+: key.toList := by
  rw [below, List.mem_filter, KeyMap.mem_keys, List.isPrefixOf_iff_prefix]

theorem below_ascending (m : Memory) (stem : String) : (m.below stem).Pairwise (· < ·) :=
  (List.pairwise_map.mpr m.objects.ascending).filter _

private theorem rows_flat (m : Memory) (stem : String) :
    m.rows stem (cutting "") = (m.below stem).map fun key => ⟨key, false⟩ := by
  have hasymm : Std.Antisymm fun a b : Row => a.name < b.name :=
    ⟨fun _ _ h h' => absurd (String.lt_trans h h') (String.lt_irrefl _)⟩
  have hirrefl : Std.Irrefl fun a b : Row => a.name < b.name := ⟨fun _ => String.lt_irrefl _⟩
  refine (m.rows_ascending stem "").eq_of_mem_iff (List.pairwise_map.mpr (m.below_ascending stem)) ?_
  intro row
  have hplain : ∀ key, IsPlain stem "" key ↔ stem.toList <+: key.toList := fun key =>
    ⟨fun ⟨rest, h, _⟩ => ⟨rest, h.symm⟩, fun ⟨rest, h⟩ => ⟨rest, h.symm, .inl rfl⟩⟩
  rw [mem_rows, List.mem_map]
  constructor
  · rintro ⟨key, o, ho, hrow⟩
    rcases rowOf?_eq_some.mp hrow with ⟨rfl, h⟩ | ⟨-, hdir, -⟩
    · exact ⟨key, mem_below.mpr ⟨⟨o, ho⟩, (hplain key).mp h⟩, rfl⟩
    · exact absurd rfl hdir
  · rintro ⟨key, hkey, rfl⟩
    obtain ⟨⟨o, ho⟩, h⟩ := mem_below.mp hkey
    exact ⟨key, o, ho, rowOf?_of_isPlain ((hplain key).mpr h)⟩

private theorem get?_without (m : Memory) (keys : List String) (key : String) :
    (m.without keys).objects.get? key = if key ∈ keys then none else m.objects.get? key := by
  unfold without
  dsimp only
  induction keys generalizing m with
  | nil => rw [List.foldl_nil, if_neg List.not_mem_nil]
  | cons gone keys ih =>
    have hrest := ih { m with objects := m.objects.erase gone }
    rw [List.foldl_cons, hrest, KeyMap.get?_erase]
    by_cases hkeys : key ∈ keys
    · simp [hkeys]
    · simp [hkeys]

theorem without_append (m : Memory) (keys more : List String) :
    m.without (keys ++ more) = (m.without keys).without more := by
  simp only [without, List.foldl_append]

private theorem below_without (m : Memory) (stem : String) (keys : List String) :
    (m.without keys).below stem = (m.below stem).filter (· ∉ keys) := by
  have hasymm : Std.Antisymm fun a b : String => a < b :=
    ⟨fun _ _ h h' => absurd (String.lt_trans h h') (String.lt_irrefl _)⟩
  have hirrefl : Std.Irrefl fun a b : String => a < b := ⟨String.lt_irrefl⟩
  refine ((m.without keys).below_ascending stem).eq_of_mem_iff
    ((m.below_ascending stem).filter _) ?_
  intro key
  rw [List.mem_filter, mem_below, mem_below, get?_without]
  by_cases hkey : key ∈ keys
  · simp [hkey]
  · simp [hkey]

theorem Separates.subset {token : Option String} {front front' back : List String}
    (h : Separates token front back) (hsub : front' ⊆ front) : Separates token front' back := by
  cases token with
  | none =>
    obtain rfl : front = [] := h
    exact List.subset_nil.mp hsub
  | some name => exact ⟨h.1, fun key hkey => h.2.1 key (hsub hkey), h.2.2⟩

/-- Only the first of some keys in ascending order can be empty. -/
theorem last_ne_empty {keys : List String} {last : String} (hasc : keys.Pairwise (· < ·))
    (hmany : 1 < keys.length) (hlast : keys.getLast? = some last) : last ≠ "" := by
  obtain ⟨first, second, rest, rfl⟩ : ∃ first second rest, keys = first :: second :: rest := by
    match keys, hmany with
    | first :: second :: rest, _ => exact ⟨first, second, rest, rfl⟩
  have hmem : last ∈ second :: rest := by
    rw [List.getLast?_cons_cons] at hlast
    exact List.mem_of_getLast? hlast
  have hlt := (List.pairwise_cons.mp hasc).1 last hmem
  rintro rfl
  exact List.not_lt_nil _ (String.lt_iff.mp hlt)

/-- A row for each of some keys. -/
private def plainRows (keys : List String) : List Row := keys.map fun key => ⟨key, false⟩

private theorem names_plainRows (keys : List String) : (plainRows keys).map (·.name) = keys := by
  rw [plainRows, List.map_map]
  exact List.map_id keys

/-- The answer with the first of the keys that are left. -/
def nextKeys (m : Memory) (back : List String) : Listed := m.firstPage 0 (plainRows back)

section Flat

variable {token : Option String} {front back : List String}

private theorem rows_append (hkeys : m.below stem = front ++ back) :
    m.rows stem (cutting "") = plainRows front ++ plainRows back := by
  rw [rows_flat, hkeys, List.map_append]
  rfl

private theorem list_below (name : String) (hsep : Separates token front back)
    (hkeys : m.below stem = front ++ back) :
    m.list (queryAfter name stem "" 0 token) = .ok (m.nextKeys back) := by
  rw [← names_plainRows front, ← names_plainRows back] at hsep
  exact list_queryAfter name 0 hsep (rows_append hkeys)

private theorem keys_nextKeys (hkeys : m.below stem = front ++ back) :
    (ListPage.ofListed (m.nextKeys back)).entries.map (·.key) = back.take (pageBound 0) := by
  have hname : (·.key) ∘ m.rowEntry = (·.name) := funext m.key_rowEntry
  rw [nextKeys, entries_firstPage (rows_append hkeys), List.map_map, hname, List.map_take,
    names_plainRows]

private theorem nextToken_nextKeys_of_le (m : Memory) (hlast : back.length ≤ pageBound 0) :
    (ListPage.ofListed (m.nextKeys back)).nextToken = none :=
  m.nextToken_firstPage_of_le (by rw [plainRows, List.length_map]; exact hlast)

/-- A page that is not the last has a thousand keys, so its last key is not the empty one. -/
theorem nextToken_nextKeys_of_lt (m : Memory) (hasc : back.Pairwise (· < ·))
    (hmore : pageBound 0 < back.length) :
    ∃ name, name ≠ "" ∧ (back.take (pageBound 0)).getLast? = some name ∧
      (ListPage.ofListed (m.nextKeys back)).nextToken = some name.toUTF8 := by
  obtain ⟨name, hname⟩ := exists_getLast?_take 0 hmore
  have hne : name ≠ "" := by
    refine last_ne_empty (hasc.sublist (List.take_sublist _ _)) ?_ hname
    rw [List.length_take, Nat.min_eq_left hmore.le]
    decide
  have hrow : ((plainRows back).take (pageBound 0)).getLast? = some ⟨name, false⟩ := by
    rw [plainRows, ← List.map_take, List.getLast?_map, hname]
    rfl
  exact ⟨name, hne, hname,
    m.nextToken_firstPage_of_last (by rw [plainRows, List.length_map]; exact hmore) hrow hne⟩

end Flat

end Memory

namespace ListCursor

section Stops

variable {σ τ : Type} {c : ListCursor}

/-- The place where the cursor goes on has been told as text. -/
def Follows (c : ListCursor) : Prop :=
  ∃ token : Option String, c.options.pageToken = token.map String.toUTF8

private theorem follows_accept (c : ListCursor) (l : Listed) : (c.accept (.ofListed l)).Follows :=
  ⟨l.nextToken.filter (!·.isEmpty), rfl⟩

private theorem Follows.exists_query (hc : c.Follows) (name : String) :
    ∃ query, c.options.query name = .ok query := by
  obtain ⟨token, htoken⟩ := hc
  by_cases hempty : token = some ""
  · refine ⟨queryAfter name c.options.stem c.options.delimiter c.options.pageSize none, ?_⟩
    unfold ListOptions.query
    rw [htoken, hempty]
    rfl
  · exact ⟨_, query_eq name htoken hempty⟩

theorem Follows.fetch (hc : c.Follows) (b : Bucket σ) (s : σ) :
    ∃ query,
      (∃ l s', b.serve (.list query) s = (.ok l, s') ∧
        c.fetch b pure s = (.ok (c.accept (.ofListed l)), s')) ∨
      ∃ why s', b.serve (.list query) s = (.error why, s') ∧
        c.fetch b pure s = (.error (.ofFault why), s') := by
  obtain ⟨query, hquery⟩ := hc.exists_query b.name
  refine ⟨query, ?_⟩
  unfold ListCursor.fetch
  cases hserve : b.serve (.list query) s with
  | mk answer s' =>
    cases answer with
    | ok l => exact .inl ⟨l, s', rfl, by rw [listPage_eq hquery hserve]⟩
    | error why => exact .inr ⟨why, s', rfl, by rw [listPage_refused hquery hserve]⟩

/-- A sweep goes through all pages, or it stops at the first page that is refused. -/
theorem fold_leads {b : Bucket σ} (step : τ → ListEntry → StateM σ τ)
    (Leads : τ × σ → τ × σ → Prop) (hrefl : ∀ x, Leads x x)
    (htrans : ∀ {x y z}, Leads x y → Leads y z → Leads x z)
    (hstep : ∀ e t s, Leads (t, s) (step t e s))
    (hpage : ∀ {query l s s'}, b.serve (.list query) s = (.ok l, s') → ∀ t, Leads (t, s) (t, s'))
    (limit : Nat) (hc : c.Follows) (t : τ) (s : σ) :
    (∃ t' s', fold b pure step limit c t s = ((.ok (), t'), s') ∧ Leads (t, s) (t', s')) ∨
      ∃ query why t' s' s'', fold b pure step limit c t s = ((.error (.ofFault why), t'), s'') ∧
        Leads (t, s) (t', s') ∧ b.serve (.list query) s' = (.error why, s'') := by
  induction limit generalizing c t s with
  | zero =>
    have hbuffered := foldlM_leads (fun _ => Leads) hrefl hstep htrans c.buffered t s
    unfold fold
    generalize c.buffered.foldlM step t s = reached at hbuffered ⊢
    obtain ⟨t', s'⟩ := reached
    refine .inl ⟨t', s', ?_, hbuffered⟩
    simp only [ite_self]
  | succ limit ih =>
    have hbuffered := foldlM_leads (fun _ => Leads) hrefl hstep htrans c.buffered t s
    unfold fold
    generalize c.buffered.foldlM step t s = reached at hbuffered ⊢
    obtain ⟨t', s'⟩ := reached
    dsimp only
    by_cases hend : c.exhausted = true
    · exact .inl ⟨t', s', if_pos hend, hbuffered⟩
    rw [if_neg hend]
    obtain ⟨query, ⟨l, s'', hserve, hfetch⟩ | ⟨why, s'', hserve, hfetch⟩⟩ := hc.fetch b s'
    · have hreached := htrans hbuffered (hpage hserve t')
      simp only [hfetch]
      rcases ih (follows_accept c l) t' s'' with ⟨u, v, hfold, hrest⟩ |
        ⟨query, why, u, v, w, hfold, hrest, hstop⟩
      · exact .inl ⟨u, v, hfold, htrans hreached hrest⟩
      · exact .inr ⟨query, why, u, v, w, hfold, htrans hreached hrest, hstop⟩
    · simp only [hfetch]
      exact .inr ⟨query, why, t', s', s'', rfl, hbuffered, hserve⟩

end Stops

section Pages

variable {σ τ : Type} {b : Bucket σ} {adjust : Adjust ListQuery} {step : τ → ListEntry → StateM σ τ}
  {c c' : ListCursor} {t t' : τ} {s s' s'' : σ}

private theorem fold_of_exhausted (h : c.exhausted = true)
    (hrun : c.buffered.foldlM step t s = (t', s')) (limit : Nat) :
    fold b adjust step limit c t s = ((.ok (), t'), s') := by
  unfold fold
  rw [hrun]
  exact if_pos h

private theorem fold_of_fetch (h : c.exhausted = false)
    (hrun : c.buffered.foldlM step t s = (t', s')) (hfetch : c.fetch b adjust s' = (.ok c', s''))
    (limit : Nat) :
    fold b adjust step (limit + 1) c t s = fold b adjust step limit c' t' s'' := by
  rw [fold, hrun]
  simp only [h, hfetch, Bool.false_eq_true, if_false]

end Pages

section Memory

open Memory (Separates)

/-- A sweep of a bucket in memory that removes nothing but what it comes across. `Leads` tells of a
run of its steps, by the keys of the entries. -/
structure Sweeping {σ τ : Type} (b : Bucket σ) (memory : σ → Memory)
    (step : τ → ListEntry → StateM σ τ) (Leads : List String → τ × σ → τ × σ → Prop) : Prop where
  nil : ∀ x, Leads [] x x
  append : ∀ {keys more x y z}, Leads keys x y → Leads more y z → Leads (keys ++ more) x z
  step : ∀ e t s, Leads [e.key] (t, s) (step t e s)
  removes : ∀ {keys x y}, Leads keys x y →
    ∃ gone, gone ⊆ keys ∧ memory y.2 = (memory x.2).without gone
  page : ∀ {query s l}, (memory s).list query = .ok l →
    ∃ s', b.serve (.list query) s = (.ok l, s') ∧ ∀ t, Leads [] (t, s) (t, s')

/-- The cursor is to hand out the entries of a page, and to go on with the keys after it. -/
structure Between (stem : String) (front page back : List String) (c : ListCursor) : Prop where
  stem_eq : c.options.stem = stem
  delimiter_eq : c.options.delimiter = ""
  pageSize_eq : c.options.pageSize = 0
  buffered : c.buffered.map (·.key) = page
  ended : c.exhausted = true → back = []
  token : c.exhausted = false → ∃ token : Option String,
    c.options.pageToken = token.map String.toUTF8 ∧ Separates token (front ++ page) back

variable {σ τ : Type} {b : Bucket σ} {memory : σ → Memory} {step : τ → ListEntry → StateM σ τ}
  {Leads : List String → τ × σ → τ × σ → Prop} {stem : String} {front page back : List String}
  {c : ListCursor}

private theorem Sweeping.below_after (h : Sweeping b memory step Leads) {x y : τ × σ}
    (hleads : Leads page x y) (hkeys : (memory x.2).below stem = front ++ page ++ back) :
    ∃ kept, kept ⊆ front ++ page ∧ (memory y.2).below stem = kept ++ back := by
  obtain ⟨gone, hgone, hmemory⟩ := h.removes hleads
  refine ⟨(front ++ page).filter (· ∉ gone), List.filter_sublist.subset, ?_⟩
  have hasc := (memory x.2).below_ascending stem
  rw [hkeys] at hasc
  rw [hmemory, Memory.below_without, hkeys, List.filter_append _ back]
  congr 1
  rw [List.filter_eq_self]
  intro key hback
  rw [decide_eq_true_eq]
  intro hmem
  have hlt := (List.pairwise_append.mp hasc).2.2 key (List.mem_append_right front (hgone hmem)) key hback
  exact String.lt_irrefl key hlt

private theorem Between.accept_last (hc : c.Between stem front page back) {m : Memory}
    {kept : List String} (hkeys : m.below stem = kept ++ back) (hlast : back.length ≤ pageBound 0) :
    (c.accept (.ofListed (m.nextKeys back))).exhausted = true ∧
      (c.accept (.ofListed (m.nextKeys back))).Between stem kept back [] := by
  have hended : (c.accept (.ofListed (m.nextKeys back))).exhausted = true := by
    rw [ListCursor.accept, m.nextToken_nextKeys_of_le hlast]
    rfl
  refine ⟨hended, ?_⟩
  exact
    { stem_eq := hc.stem_eq
      delimiter_eq := hc.delimiter_eq
      pageSize_eq := hc.pageSize_eq
      buffered := (Memory.keys_nextKeys hkeys).trans (List.take_of_length_le hlast)
      ended := fun _ => rfl
      token := fun hmore => Bool.noConfusion (hended.symm.trans hmore) }

private theorem Between.accept_more (hc : c.Between stem front page back) {m : Memory}
    {kept : List String} (hkeys : m.below stem = kept ++ back) (hmore : pageBound 0 < back.length) :
    (c.accept (.ofListed (m.nextKeys back))).Between stem kept (back.take (pageBound 0))
      (back.drop (pageBound 0)) := by
  have hasc := m.below_ascending stem
  rw [hkeys] at hasc
  obtain ⟨name, hne, hlast, htoken⟩ :=
    m.nextToken_nextKeys_of_lt (List.pairwise_append.mp hasc).2.1 hmore
  rw [← List.take_append_drop (pageBound 0) back, ← List.append_assoc] at hasc
  have hlast' : (kept ++ back.take (pageBound 0)).getLast? = some name := by
    rw [List.getLast?_append, hlast]
    rfl
  exact
    { stem_eq := hc.stem_eq
      delimiter_eq := hc.delimiter_eq
      pageSize_eq := hc.pageSize_eq
      buffered := Memory.keys_nextKeys hkeys
      ended := fun hend => by simp [ListCursor.accept, htoken] at hend
      token := fun _ => ⟨some name, htoken, Memory.separates_last hasc hlast' hne⟩ }

theorem Between.fetch (hc : c.Between stem front page back) (h : Sweeping b memory step Leads)
    (hmore : c.exhausted = false) {kept : List String} (hkept : kept ⊆ front ++ page) {s : σ}
    (hkeys : (memory s).below stem = kept ++ back) :
    ∃ s', c.fetch b pure s = (.ok (c.accept (.ofListed ((memory s).nextKeys back))), s') ∧
      ∀ t, Leads [] (t, s) (t, s') := by
  obtain ⟨token, htoken, hsep⟩ := hc.token hmore
  have hquery := query_eq b.name htoken hsep.ne_empty
  rw [hc.stem_eq, hc.delimiter_eq, hc.pageSize_eq] at hquery
  obtain ⟨s', hserve, hsame⟩ := h.page (Memory.list_below b.name (hsep.subset hkept) hkeys)
  refine ⟨s', ?_, hsame⟩
  unfold ListCursor.fetch
  rw [listPage_eq hquery hserve]

theorem Sweeping.buffered (h : Sweeping b memory step Leads) (entries : List ListEntry) (t : τ)
    (s : σ) : Leads (entries.map (·.key)) (t, s) (entries.foldlM step t s) := by
  refine foldlM_leads (fun es => Leads (es.map (·.key))) h.nil h.step ?_ entries t s
  intro is js x y z hxy hyz
  rw [List.map_append]
  exact h.append hxy hyz

private theorem Sweeping.fold_ended (h : Sweeping b memory step Leads)
    (hc : c.Between stem front page back) (hend : c.exhausted = true) (limit : Nat) (t : τ)
    (s : σ) :
    ∃ t' s', fold b pure step limit c t s = ((.ok (), t'), s') ∧
      Leads (page ++ back) (t, s) (t', s') := by
  have hrun := h.buffered c.buffered t s
  rw [hc.buffered] at hrun
  rw [hc.ended hend, List.append_nil]
  exact ⟨_, _, fold_of_exhausted hend rfl limit, hrun⟩

/-- A sweep comes across each key that is listed, in order and once, whatever it removes on its
way. -/
theorem Sweeping.fold (h : Sweeping b memory step Leads) (limit : Nat)
    (hc : c.Between stem front page back)
    (hlimit : c.exhausted = false → pageCount 0 back.length ≤ limit) (t : τ) {s : σ}
    (hkeys : (memory s).below stem = front ++ page ++ back) :
    ∃ t' s', fold b pure step limit c t s = ((.ok (), t'), s') ∧
      Leads (page ++ back) (t, s) (t', s') := by
  -- What a page leaves behind does not matter to the next one: `Between` looks only at the keys on
  -- either side of the token.
  induction limit generalizing front page back c t s with
  | zero =>
    have hend : c.exhausted = true := by
      by_contra hmore
      have hnone := hlimit (Bool.eq_false_iff.mpr hmore)
      have hone : 1 ≤ pageCount 0 back.length := Nat.le_max_left _ _
      omega
    exact h.fold_ended hc hend 0 t s
  | succ limit ih =>
    cases hopen : c.exhausted with
    | true => exact h.fold_ended hc hopen (limit + 1) t s
    | false =>
      have hpage := h.buffered c.buffered t s
      rw [hc.buffered] at hpage
      generalize hrun : c.buffered.foldlM step t s = reached at hpage
      obtain ⟨t', s'⟩ := reached
      obtain ⟨kept, hkept, hkeys'⟩ := h.below_after hpage hkeys
      obtain ⟨s'', hfetch, hsame⟩ := hc.fetch h hopen hkept hkeys'
      have hkeys'' : (memory s'').below stem = kept ++ back := by
        obtain ⟨gone, hgone, hmemory⟩ := h.removes (hsame t')
        rw [List.subset_nil.mp hgone] at hmemory
        exact (congrArg (·.below stem) hmemory).trans hkeys'
      have hrest : ∃ u v, fold b pure step limit
          (c.accept (.ofListed ((memory s').nextKeys back))) t' s'' = ((.ok (), u), v) ∧
          Leads back (t', s'') (u, v) := by
        rcases Nat.lt_or_ge (pageBound 0) back.length with hmore | hlast
        · have hcount := pageCount_more hmore
          have hle := hlimit hopen
          have hrest := ih (hc.accept_more hkeys' hmore)
            (fun _ => by rw [List.length_drop]; omega) t'
            (by rw [List.append_assoc, List.take_append_drop, hkeys''])
          rw [List.take_append_drop] at hrest
          exact hrest
        · obtain ⟨hended, hc'⟩ := hc.accept_last hkeys' hlast
          have hrest := h.fold_ended hc' hended limit t' s''
          rw [List.append_nil] at hrest
          exact hrest
      obtain ⟨u, v, hfold, hleads⟩ := hrest
      exact ⟨u, v, (fold_of_fetch hopen hrun hfetch limit).trans hfold,
        h.append hpage (h.append (hsame t') hleads)⟩

theorem Sweeping.fold_new (h : Sweeping b memory step Leads) {limit : Nat} (stem : String) (t : τ)
    (s : σ) (hlimit : pageCount 0 ((memory s).below stem).length ≤ limit) :
    ∃ t' s', ListCursor.fold b pure step limit (.new ⟨stem, "", 0, none⟩) t s = ((.ok (), t'), s') ∧
      Leads ((memory s).below stem) (t, s) (t', s') := by
  have hnew : (ListCursor.new ⟨stem, "", 0, none⟩).Between stem [] [] ((memory s).below stem) :=
    { stem_eq := rfl
      delimiter_eq := rfl
      pageSize_eq := rfl
      buffered := rfl
      ended := nofun
      token := fun _ => ⟨none, rfl, rfl⟩ }
  exact h.fold limit hnew (fun _ => hlimit) t rfl

end Memory

end ListCursor

end BlobStore
