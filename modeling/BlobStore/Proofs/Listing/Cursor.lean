import BlobStore.Bucket
import Mathlib.Logic.Function.Iterate

/-!
# Calling for the next entry

A cursor hands out the entries of the pages that come, each of them once and in their order. It asks
for a page when it has nothing left to hand out, with the token of the last page that has come, and
after an error for the same page again. After the last page it asks for nothing any more.
-/

namespace BlobStore

namespace ListCursor

variable {σ : Type}

/-- What happens to a cursor: a page is asked for, and comes or does not, or a call for the next entry
gives its result. -/
inductive Happening where
  | asked (options : ListOptions) (answer : Except Error ListPage)
  | gave (result : Except Error (Option ListEntry))

namespace Happening

def page? : Happening → Option ListPage
  | .asked _ (.ok page) => some page
  | _ => none

def entry? : Happening → Option ListEntry
  | .gave (.ok (some entry)) => some entry
  | _ => none

end Happening

/-- A state with all that has happened. -/
structure Watched (σ : Type) where
  state : σ
  past : List Happening

/-- The pages, with each of them noted down when it is asked for. -/
def watched (pages : ListOptions → Action σ ListPage) : ListOptions → Action (Watched σ) ListPage :=
  fun o w =>
    let (answer, s) := pages o w.state
    (answer, ⟨s, w.past ++ [.asked o answer]⟩)

/-- A call for the next entry. -/
def call (pages : ListOptions → Action σ ListPage) (limit : Nat) (x : ListCursor × Watched σ) :
    ListCursor × Watched σ :=
  let ((result, c), w) := nextFrom (watched pages) limit x.1 x.2
  (c, { w with past := w.past ++ [.gave result] })

private theorem pages_of_watched {pages : ListOptions → Action σ ListPage} {o : ListOptions}
    {w w' : Watched σ} {answer : Except Error ListPage} (h : watched pages o w = (answer, w')) :
    ∃ s, pages o w.state = (answer, s) ∧ w' = ⟨s, w.past ++ [.asked o answer]⟩ := by
  obtain ⟨rfl, rfl⟩ := Prod.mk.inj h
  exact ⟨_, rfl, rfl⟩

private theorem nextFrom_watched (pages : ListOptions → Action σ ListPage) (limit : Nat)
    (c : ListCursor) (w : Watched σ) :
    ∃ requests : List (ListOptions × Except Error ListPage),
      nextFrom (watched pages) limit c w = ((nextFrom pages limit c w.state).1,
        ⟨(nextFrom pages limit c w.state).2, w.past ++ requests.map fun q => .asked q.1 q.2⟩) := by
  fun_induction nextFrom (watched pages) limit c w with
  | case1 limit c w entry rest hbuffered =>
    unfold nextFrom
    exact ⟨[], by simp [hbuffered]⟩
  | case2 limit c w hbuffered hexhausted =>
    unfold nextFrom
    exact ⟨[], by simp [hbuffered, hexhausted]⟩
  | case3 c w hbuffered hexhausted =>
    unfold nextFrom
    exact ⟨[], by simp [hbuffered, hexhausted]⟩
  | case4 c w hbuffered hexhausted limit page w' hpage ih =>
    obtain ⟨requests, hrest⟩ := ih
    obtain ⟨s, hanswer, rfl⟩ := pages_of_watched hpage
    have hstep : nextFrom pages limit.succ c w.state = nextFrom pages limit (c.accept page) s := by
      rw [nextFrom]
      simp [hbuffered, hexhausted, hanswer]
    refine ⟨(c.options, .ok page) :: requests, ?_⟩
    rw [hstep, hrest, List.append_assoc]
    rfl
  | case5 c w hbuffered hexhausted limit e w' herror =>
    obtain ⟨s, hanswer, rfl⟩ := pages_of_watched herror
    unfold nextFrom
    exact ⟨[(c.options, .error e)], by simp [hbuffered, hexhausted, hanswer]⟩

private theorem call_eq (pages : ListOptions → Action σ ListPage) (limit : Nat) (c : ListCursor)
    (w : Watched σ) :
    let r := nextFrom pages limit c w.state
    ∃ requests : List (ListOptions × Except Error ListPage), call pages limit (c, w) =
      (r.1.2, ⟨r.2, w.past ++ requests.map (fun q => .asked q.1 q.2) ++ [.gave r.1.1]⟩) := by
  obtain ⟨requests, heq⟩ := nextFrom_watched pages limit c w
  refine ⟨requests, ?_⟩
  unfold call
  rw [heq]

/-- A call that comes to an entry, an error or the end of the last page comes to the same where it may
ask for more pages. -/
theorem nextFrom_of_le {pages : ListOptions → Action σ ListPage} {limit more : Nat} {c : ListCursor}
    {s : σ} (hle : limit ≤ more)
    (htold : (nextFrom pages limit c s).1.1 = .ok none →
      (nextFrom pages limit c s).1.2.exhausted = true) :
    nextFrom pages more c s = nextFrom pages limit c s := by
  fun_induction nextFrom pages limit c s generalizing more with
  | case1 limit c s entry rest hbuffered =>
    unfold nextFrom
    simp [hbuffered]
  | case2 limit c s hbuffered hexhausted =>
    unfold nextFrom
    simp [hbuffered, hexhausted]
  | case3 c s hbuffered hexhausted => exact absurd (htold rfl) hexhausted
  | case4 c s hbuffered hexhausted limit page s' hpage ih =>
    obtain ⟨more, rfl⟩ := Nat.exists_eq_add_of_le' hle
    rw [← ih (Nat.le_add_left limit more) htold, Nat.succ_eq_add_one, ← Nat.add_assoc, nextFrom]
    simp [hbuffered, hexhausted, hpage]
  | case5 c s hbuffered hexhausted limit e s' herror =>
    obtain ⟨more, rfl⟩ := Nat.exists_eq_add_of_le' hle
    rw [Nat.succ_eq_add_one, ← Nat.add_assoc, nextFrom]
    simp [hbuffered, hexhausted, herror]

/-! ## What the past tells -/

/-- The pages that have come. -/
def arrived (past : List Happening) : List ListPage := past.filterMap Happening.page?

/-- The entries of the pages that have come. -/
def listed (past : List Happening) : List ListEntry := (arrived past).flatMap (·.entries)

/-- The entries that have been handed out. -/
def given (past : List Happening) : List ListEntry := past.filterMap Happening.entry?

/-- What the next page is to be asked for with: the token is that of the last page that has come, and
the caller's own before the first. -/
def following (options : ListOptions) (past : List Happening) : ListOptions :=
  match (arrived past).getLast? with
  | some page => { options with pageToken := page.nextToken }
  | none => options

/-- The last page has come. -/
def HasLast (past : List Happening) : Prop :=
  ∃ page, (arrived past).getLast? = some page ∧ page.nextToken = none

/-- All that has come has been handed out. -/
def Drained (past : List Happening) : Prop := given past = listed past

/-- A page has just been refused. -/
def Refused (past : List Happening) : Prop := ∃ o e, past.getLast? = some (.asked o (.error e))

/-- The last `n` pages that have just come were empty, and not the last. -/
def Spent (n : Nat) (past : List Happening) : Prop :=
  ∃ before empties, past = before ++ empties ∧ empties.length = n ∧
    ∀ x ∈ empties, ∃ o page, x = .asked o (.ok page) ∧ page.entries = [] ∧ page.nextToken ≠ none

variable {past before after : List Happening} {x : Happening} {options : ListOptions}

private theorem arrived_concat_of_none (h : x.page? = none) :
    arrived (past ++ [x]) = arrived past := by
  simp [arrived, h]

private theorem listed_concat_of_none (h : x.page? = none) :
    listed (past ++ [x]) = listed past := by
  rw [listed, arrived_concat_of_none h]
  rfl

private theorem following_concat_of_none (h : x.page? = none) :
    following options (past ++ [x]) = following options past := by
  rw [following, arrived_concat_of_none h]
  rfl

private theorem hasLast_concat_of_none (h : x.page? = none) :
    HasLast (past ++ [x]) ↔ HasLast past := by
  rw [HasLast, arrived_concat_of_none h]
  rfl

private theorem given_concat_of_none (h : x.entry? = none) : given (past ++ [x]) = given past := by
  simp [given, h]

private theorem drained_concat (hpage : x.page? = none) (hentry : x.entry? = none) :
    Drained (past ++ [x]) ↔ Drained past := by
  rw [Drained, listed_concat_of_none hpage, given_concat_of_none hentry]
  rfl

private theorem not_refused_concat (result : Except Error (Option ListEntry)) :
    ¬Refused (past ++ [.gave result]) := by
  rintro ⟨o, e, h⟩
  rw [List.getLast?_concat] at h
  cases h

private theorem Drained.append_ne (h : Drained past) (entry : ListEntry) (rest : List ListEntry) :
    listed past ≠ given past ++ entry :: rest := by
  intro heq
  have hlength := congrArg List.length heq
  rw [← h] at hlength
  simp at hlength

/-! ## What may happen next -/

/-- What may happen after the past. -/
def Allowed (options : ListOptions) (limit : Nat) (past : List Happening) : Happening → Prop
  | .asked o _ =>
    0 < limit ∧ Drained past ∧ ¬HasLast past ∧ ¬Refused past ∧ o = following options past
  | .gave (.ok (some entry)) => ∃ rest, listed past = given past ++ entry :: rest
  | .gave (.ok none) => Drained past ∧ ¬Refused past ∧ (HasLast past ∨ Spent limit past)
  | .gave (.error e) => ¬HasLast past ∧ ∃ o, past.getLast? = some (.asked o (.error e))

/-- All that has happened was allowed when it happened. -/
def Lawful (options : ListOptions) (limit : Nat) (past : List Happening) : Prop :=
  ∀ before x after, past = before ++ x :: after → Allowed options limit before x

theorem Lawful.nil (options : ListOptions) (limit : Nat) : Lawful options limit [] := by
  intro before x after h
  simp at h

theorem Lawful.concat {limit : Nat} (h : Lawful options limit past)
    (hx : Allowed options limit past x) : Lawful options limit (past ++ [x]) := by
  intro before y after heq
  rcases List.eq_nil_or_concat after with rfl | ⟨init, last, rfl⟩
  · obtain ⟨rfl, hxy⟩ := List.append_inj' heq rfl
    obtain rfl := (List.cons.inj hxy).1
    exact hx
  · have heq' : past ++ [x] = (before ++ y :: init) ++ [last] := by
      rw [heq, List.append_assoc, List.cons_append, List.concat_eq_append]
    exact h before y init (List.append_inj' heq' rfl).1

/-- The cursor is where the past has led it. -/
structure Tracks (options : ListOptions) (past : List Happening) (c : ListCursor) : Prop where
  conserved : given past ++ c.buffered = listed past
  options_eq : c.options = following options past
  exhausted_iff : c.exhausted = true ↔ HasLast past

private theorem tracks_new (options : ListOptions) : Tracks options [] (.new options) where
  conserved := rfl
  options_eq := rfl
  exhausted_iff := by simp [new, HasLast, arrived]

section Step

variable {c : ListCursor}

private theorem Tracks.drained (h : Tracks options past c) (hempty : c.buffered = []) :
    Drained past := by
  have hconserved := h.conserved
  rw [hempty, List.append_nil] at hconserved
  exact hconserved

theorem Tracks.same (h : Tracks options past c) (hpage : x.page? = none) (hentry : x.entry? = none) :
    Tracks options (past ++ [x]) c where
  conserved := by
    rw [given_concat_of_none hentry, listed_concat_of_none hpage]
    exact h.conserved
  options_eq := by
    rw [following_concat_of_none hpage]
    exact h.options_eq
  exhausted_iff := by
    rw [hasLast_concat_of_none hpage]
    exact h.exhausted_iff

private theorem Tracks.handOut {entry : ListEntry} {rest : List ListEntry}
    (h : Tracks options past c) (hbuffered : c.buffered = entry :: rest) :
    Tracks options (past ++ [.gave (.ok (some entry))]) { c with buffered := rest } where
  conserved := by
    have hconserved := h.conserved
    rw [hbuffered] at hconserved
    rw [listed_concat_of_none rfl, ← hconserved]
    simp [given, Happening.entry?]
  options_eq := by
    rw [following_concat_of_none rfl]
    exact h.options_eq
  exhausted_iff := by
    rw [hasLast_concat_of_none rfl]
    exact h.exhausted_iff

theorem Tracks.accept (h : Tracks options past c) (hempty : c.buffered = []) (o : ListOptions)
    (page : ListPage) : Tracks options (past ++ [.asked o (.ok page)]) (c.accept page) := by
  have harrived : arrived (past ++ [.asked o (.ok page)]) = arrived past ++ [page] := by
    simp [arrived, Happening.page?]
  refine ⟨?_, ?_, ?_⟩
  · rw [given_concat_of_none rfl, listed, harrived, List.flatMap_append, List.flatMap_singleton]
    show given past ++ page.entries = listed past ++ page.entries
    rw [h.drained hempty]
  · have hoptions := h.options_eq
    rw [following, harrived, List.getLast?_concat]
    show { c.options with pageToken := page.nextToken } = { options with pageToken := page.nextToken }
    rw [hoptions, following]
    split <;> rfl
  · rw [HasLast, harrived, List.getLast?_concat]
    simp [ListCursor.accept]

theorem Spent.accept {n : Nat} (h : Spent n past) (o : ListOptions) {page : ListPage}
    (hempty : page.entries = []) (hmore : page.nextToken ≠ none) :
    Spent (n + 1) (past ++ [.asked o (.ok page)]) := by
  obtain ⟨before, empties, rfl, hlength, hall⟩ := h
  refine ⟨before, empties ++ [.asked o (.ok page)], List.append_assoc _ _ _, by simp [hlength], ?_⟩
  intro x hx
  rcases List.mem_append.mp hx with hx | hx
  · exact hall x hx
  · obtain rfl := List.mem_singleton.mp hx
    exact ⟨o, page, rfl, hempty, hmore⟩

private theorem spent_zero (past : List Happening) : Spent 0 past :=
  ⟨past, [], (List.append_nil past).symm, rfl, List.forall_mem_nil _⟩

private theorem Tracks.lawful_asked {limit : Nat} (h : Tracks options past c)
    (hlawful : Lawful options limit past) (hgranted : ¬Refused past) (hlimit : 0 < limit)
    (hempty : c.buffered = []) (hmore : ¬c.exhausted = true) (answer : Except Error ListPage) :
    Lawful options limit (past ++ [.asked c.options answer]) := by
  apply hlawful.concat
  refine ⟨hlimit, h.drained hempty, ?_, hgranted, h.options_eq⟩
  rw [← h.exhausted_iff]
  exact hmore

/-- A call has kept to what is allowed, and has left the cursor where its past has led it. -/
def KeepsTo (options : ListOptions) (limit : Nat)
    (r : (Except Error (Option ListEntry) × ListCursor) × Watched σ) : Prop :=
  Tracks options (r.2.past ++ [.gave r.1.1]) r.1.2 ∧
    Lawful options limit (r.2.past ++ [.gave r.1.1])

/-- Every call keeps to what is allowed, also when some of the pages that it may ask for have been
spent. -/
theorem nextFrom_keepsTo (pages : ListOptions → Action σ ListPage) {limit left spent : Nat}
    (hlimit : spent + left = limit) {w : Watched σ} (htracks : Tracks options w.past c)
    (hlawful : Lawful options limit w.past) (hgranted : ¬Refused w.past)
    (hspent : c.buffered = [] → c.exhausted = false → Spent spent w.past) :
    KeepsTo options limit (nextFrom (watched pages) left c w) := by
  fun_induction nextFrom (watched pages) left c w generalizing spent with
  | case1 left c w entry rest hbuffered =>
    refine ⟨htracks.handOut hbuffered, hlawful.concat ⟨rest, ?_⟩⟩
    rw [← htracks.conserved, hbuffered]
  | case2 left c w hbuffered hexhausted =>
    refine ⟨htracks.same rfl rfl, hlawful.concat ⟨htracks.drained hbuffered, hgranted, .inl ?_⟩⟩
    exact htracks.exhausted_iff.mp hexhausted
  | case3 c w hbuffered hexhausted =>
    have hlast := hspent hbuffered (Bool.eq_false_iff.mpr hexhausted)
    rw [← Nat.add_zero spent, hlimit] at hlast
    exact ⟨htracks.same rfl rfl, hlawful.concat ⟨htracks.drained hbuffered, hgranted, .inr hlast⟩⟩
  | case4 c w hbuffered hexhausted left page w' hpage ih =>
    obtain ⟨s, -, rfl⟩ := pages_of_watched hpage
    have hlimit' : spent + 1 + left = limit := by omega
    apply ih hlimit' (htracks.accept hbuffered c.options page)
    · exact htracks.lawful_asked hlawful hgranted (by omega) hbuffered hexhausted (.ok page)
    · rintro ⟨o, e, hlast⟩
      rw [List.getLast?_concat] at hlast
      cases hlast
    · intro hempty hgoes
      apply (hspent hbuffered (Bool.eq_false_iff.mpr hexhausted)).accept c.options hempty
      intro htoken
      rw [ListCursor.accept, htoken] at hgoes
      cases hgoes
  | case5 c w hbuffered hexhausted left e w' herror =>
    obtain ⟨s, -, rfl⟩ := pages_of_watched herror
    have hasked := htracks.lawful_asked hlawful hgranted (by omega) hbuffered hexhausted (.error e)
    have hlast : ¬HasLast (w.past ++ [.asked c.options (.error e)]) := by
      rw [hasLast_concat_of_none rfl, ← htracks.exhausted_iff]
      exact hexhausted
    exact ⟨(htracks.same rfl rfl).same rfl rfl,
      hasked.concat ⟨hlast, c.options, List.getLast?_concat⟩⟩

end Step

private theorem calls_lawful (pages : ListOptions → Action σ ListPage) (options : ListOptions)
    (limit : Nat) (s : σ) (n : Nat) :
    let r := (call pages limit)^[n] (.new options, ⟨s, []⟩)
    Tracks options r.2.past r.1 ∧ Lawful options limit r.2.past ∧ ¬Refused r.2.past := by
  induction n with
  | zero =>
    refine ⟨tracks_new options, .nil options limit, ?_⟩
    rintro ⟨o, e, h⟩
    cases h
  | succ n ih =>
    rw [Function.iterate_succ_apply']
    obtain ⟨htracks, hlawful, hgranted⟩ := ih
    obtain ⟨htracks, hlawful⟩ := nextFrom_keepsTo pages (Nat.zero_add limit) htracks hlawful hgranted
      fun _ _ => spent_zero _
    exact ⟨htracks, hlawful, not_refused_concat _⟩

/-! ## What is seen of a cursor -/

section Past

variable {limit : Nat} {o : ListOptions} {e : Error}

private theorem Lawful.gave_refusal (h : Lawful options limit past)
    (heq : past = before ++ .asked o (.error e) :: x :: after) : x = .gave (.error e) := by
  obtain ⟨-, hdrained, -, -, -⟩ := h before _ _ heq
  have hx : Allowed options limit (before ++ [.asked o (.error e)]) x := by
    apply h _ x after
    rw [heq, List.append_assoc]
    rfl
  have hrefused : Refused (before ++ [.asked o (.error e)]) := ⟨o, e, List.getLast?_concat⟩
  have hnothing := ((drained_concat rfl rfl).mpr hdrained : Drained (before ++ [.asked o (.error e)]))
  match x, hx with
  | .asked _ _, ⟨_, _, _, hgranted, _⟩ => exact absurd hrefused hgranted
  | .gave (.ok (some entry)), ⟨rest, hmore⟩ => exact absurd hmore (hnothing.append_ne entry rest)
  | .gave (.ok none), ⟨_, hgranted, _⟩ => exact absurd hrefused hgranted
  | .gave (.error e'), ⟨_, o', hlast⟩ =>
    rw [List.getLast?_concat] at hlast
    cases hlast
    rfl

private theorem Lawful.asked_again (h : Lawful options limit past)
    (heq : past = before ++ .asked o (.error e) :: .gave (.error e) :: x :: after) :
    ∃ answer, x = .asked o answer := by
  obtain ⟨hlimit, hdrained, hmore, -, ho⟩ := h before _ _ heq
  have hx : Allowed options limit (before ++ [.asked o (.error e)] ++ [.gave (.error e)]) x := by
    apply h _ x after
    rw [heq, List.append_assoc, List.append_assoc]
    rfl
  match x, hx with
  | .asked o' answer, ⟨_, _, _, _, ho'⟩ =>
    rw [following_concat_of_none rfl, following_concat_of_none rfl, ← ho] at ho'
    exact ⟨answer, by rw [ho']⟩
  | .gave (.ok (some entry)), ⟨rest, hrest⟩ =>
    have hnothing : Drained (before ++ [.asked o (.error e)] ++ [.gave (.error e)]) :=
      (drained_concat rfl rfl).mpr ((drained_concat rfl rfl).mpr hdrained)
    exact absurd hrest (hnothing.append_ne entry rest)
  | .gave (.ok none), ⟨_, _, hend⟩ =>
    rcases hend with hlast | ⟨front, empties, hpast, hlength, hall⟩
    · rw [hasLast_concat_of_none rfl, hasLast_concat_of_none rfl] at hlast
      exact absurd hlast hmore
    · -- What has just happened was no empty page.
      rcases List.eq_nil_or_concat empties with rfl | ⟨init, y, rfl⟩
      · rw [← hlength] at hlimit
        exact absurd hlimit (Nat.lt_irrefl 0)
      · rw [List.concat_eq_append, ← List.append_assoc] at hpast
        obtain rfl := (List.cons.inj (List.append_inj' hpast rfl).2).1
        obtain ⟨o', page, hy, -⟩ := hall (.gave (.error e)) (by simp)
        cases hy
  | .gave (.error e'), ⟨_, o', hlast⟩ =>
    rw [List.getLast?_concat] at hlast
    cases hlast

private theorem Lawful.retried (h : Lawful options limit past) (hgranted : ¬Refused past)
    (heq : past = before ++ .asked o (.error e) :: after) :
    after = [.gave (.error e)] ∨
      ∃ answer rest, after = .gave (.error e) :: .asked o answer :: rest := by
  cases after with
  | nil =>
    apply absurd _ hgranted
    refine ⟨o, e, ?_⟩
    rw [heq, List.getLast?_concat]
  | cons x rest =>
    obtain rfl := h.gave_refusal heq
    cases rest with
    | nil => exact .inl rfl
    | cons y rest =>
      obtain ⟨answer, rfl⟩ := h.asked_again heq
      exact .inr ⟨answer, rest, rfl⟩

private theorem Lawful.gave_none (h : Lawful options limit past) (heq : past = before ++ after)
    (hdrained : Drained before) (hlast : HasLast before) : ∀ x ∈ after, x = .gave (.ok none) := by
  induction after generalizing before with
  | nil => exact List.forall_mem_nil _
  | cons x after ih =>
    have hx : x = .gave (.ok none) := by
      match x, h before x after heq with
      | .asked _ _, ⟨_, _, hmore, _, _⟩ => exact absurd hlast hmore
      | .gave (.ok (some entry)), ⟨rest, hrest⟩ => exact absurd hrest (hdrained.append_ne entry rest)
      | .gave (.ok none), _ => rfl
      | .gave (.error _), ⟨hmore, _⟩ => exact absurd hlast hmore
    subst hx
    have hpast : past = (before ++ [.gave (.ok none)]) ++ after := by
      rw [heq, List.append_assoc]
      rfl
    have hrest := ih hpast ((drained_concat rfl rfl).mpr hdrained)
      ((hasLast_concat_of_none rfl).mpr hlast)
    exact List.forall_mem_cons.mpr ⟨rfl, hrest⟩

end Past

/-- What calls for the next entry one after the other come to, where each may ask for so many pages. -/
structure Faithful (options : ListOptions) (limit : Nat) (past : List Happening) (c : ListCursor) :
    Prop where
  /-- What has been given and what is left in the buffer are the entries of the pages that have come. -/
  conserved : given past ++ c.buffered = listed past
  /-- A page is asked for when nothing is left, with the token of the last page that has come, and not
  after a page without a token. -/
  asked : ∀ before o answer after, past = before ++ .asked o answer :: after →
    Drained before ∧ ¬HasLast before ∧ o = following options before
  /-- An error goes to the caller, and the next call asks for the same page. -/
  retried : ∀ before o e after, past = before ++ .asked o (.error e) :: after →
    after = [.gave (.error e)] ∨
      ∃ answer rest, after = .gave (.error e) :: .asked o answer :: rest
  /-- There are no errors but these. -/
  failed : ∀ before e after, past = before ++ .gave (.error e) :: after →
    ∃ front o, before = front ++ [.asked o (.error e)]
  /-- Nothing happens after the end but that it is told. -/
  ended : ∀ before after, past = before ++ after → Drained before → HasLast before →
    ∀ x ∈ after, x = .gave (.ok none)
  /-- The end is told where it is, or where a call has had as many empty pages as it may ask for. -/
  gave_none : ∀ before after, past = before ++ .gave (.ok none) :: after →
    Drained before ∧ (HasLast before ∨ Spent limit before)

private theorem Tracks.faithful {limit : Nat} {c : ListCursor} (h : Tracks options past c)
    (hlawful : Lawful options limit past) (hgranted : ¬Refused past) :
    Faithful options limit past c where
  conserved := h.conserved
  asked before o answer after heq := by
    obtain ⟨-, hdrained, hmore, -, ho⟩ := hlawful before _ _ heq
    exact ⟨hdrained, hmore, ho⟩
  retried before o e after heq := hlawful.retried hgranted heq
  failed before e after heq := by
    obtain ⟨-, o, hlast⟩ := hlawful before _ _ heq
    obtain ⟨front, rfl⟩ := List.getLast?_eq_some_iff.mp hlast
    exact ⟨front, o, rfl⟩
  ended before after heq := hlawful.gave_none heq
  gave_none before after heq := by
    obtain ⟨hdrained, -, hend⟩ := hlawful before _ _ heq
    exact ⟨hdrained, hend⟩

/-- However the pages come, some of them empty and some refused, and however often the next entry is
called for: the entries of the pages are given once each and in their order, a page is asked for when
all before it have been given, a page that is refused is asked for again, and after the last page
nothing is asked for. What is noted down of a call are its requests and its result. -/
theorem calls_faithful (pages : ListOptions → Action σ ListPage) (options : ListOptions)
    (limit : Nat) (s : σ) (n : Nat) :
    let r := (call pages limit)^[n] (.new options, ⟨s, []⟩)
    Faithful options limit r.2.past r.1 ∧
      ∀ c w, let r := nextFrom pages limit c w.state
        ∃ requests : List (ListOptions × Except Error ListPage), call pages limit (c, w) =
          (r.1.2, ⟨r.2, w.past ++ requests.map (fun q => .asked q.1 q.2) ++ [.gave r.1.1]⟩) := by
  intro r
  obtain ⟨htracks, hlawful, hgranted⟩ := calls_lawful pages options limit s n
  exact ⟨htracks.faithful hlawful hgranted, call_eq pages limit⟩

/-- A page, the refusal of the next, an empty page in its place, and the last page. -/
example :
    let first : ListPage := ⟨[.dir "a/"], some "t".toUTF8⟩
    let empty : ListPage := ⟨[], some "u".toUTF8⟩
    let last : ListPage := ⟨[.dir "b/"], none⟩
    let refusal : Error := .ofFault .canceled
    let pages : ListOptions → Action (List (Except Error ListPage)) ListPage := fun _ s =>
      (s.headD (.ok last), s.tail)
    let o (token : Option ByteArray) : ListOptions := ⟨"", "/", 0, token⟩
    ((call pages 2)^[4] (.new (o none), ⟨[.ok first, .error refusal, .ok empty], []⟩)).2.past =
      [.asked (o none) (.ok first), .gave (.ok (some (.dir "a/"))),
        .asked (o (some "t".toUTF8)) (.error refusal), .gave (.error refusal),
        .asked (o (some "t".toUTF8)) (.ok empty), .asked (o (some "u".toUTF8)) (.ok last),
        .gave (.ok (some (.dir "b/"))), .gave (.ok none)] := rfl

end ListCursor

end BlobStore
