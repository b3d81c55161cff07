import BlobStore.Service

/-!
# Requests on record

A service whose requests are noted down with their answers. Requests may come to grief before they
have any effect; which ones is left to a plan that knows all earlier requests and answers. What the
service has come to is told by the record alone.
-/

namespace BlobStore

/-- Granting the request stores an object. -/
def Request.isStoring : Request → Bool
  | .put _ _ => true
  | .completeUpload _ _ _ => true
  | _ => false

/-- A request with the answer it got. -/
structure Event where
  request : Request
  answer : Answer request

namespace Event

def isGranted (e : Event) : Bool := e.answer.toBool

/-- The name of the upload that was started. -/
def createdId? : Event → Option String
  | ⟨.createUpload _ _, .ok id⟩ => id
  | _ => none

/-- The name of the upload that was to be given up. -/
def abortedId? : Event → Option String
  | ⟨.abortUpload _ id, _⟩ => some id
  | _ => none

/-- Whether a page of a listing was asked for. -/
def isListing : Event → Bool
  | ⟨.list _, _⟩ => true
  | _ => false

end Event

/-- No page of a listing has been refused. -/
def ListingsGranted (events : List Event) : Prop :=
  ∀ e ∈ events, e.isListing = true → e.isGranted = true

theorem ListingsGranted.nil : ListingsGranted [] := List.forall_mem_nil _

theorem listingsGranted_append {events more : List Event} :
    ListingsGranted (events ++ more) ↔ ListingsGranted events ∧ ListingsGranted more :=
  List.forall_mem_append

/-- What keeps a request from being served. -/
inductive Mishap where
  | refused (why : Fault)
  /-- An upload is granted without a name, and nothing is kept of it. -/
  | unnamed

/-- The answer to a request that comes to grief. Only an upload can be left without a name. -/
def Mishap.answer? : Mishap → (r : Request) → Option (Answer r)
  | .refused why, _ => some (.error why)
  | .unnamed, .createUpload _ _ => some (.ok none)
  | .unnamed, _ => none

theorem Mishap.answer?_eq_some {mishap : Mishap} {e : Event}
    (h : mishap.answer? e.request = some e.answer) :
    (∃ why, e.answer = .error why) ∨
      ∃ address headers, e = ⟨.createUpload address headers, .ok Option.none⟩ := by
  obtain ⟨r, answer⟩ := e
  cases mishap with
  | refused why =>
    exact Or.inl ⟨why, (Option.some.inj h).symm⟩
  | unnamed =>
    cases r with
    | createUpload address headers =>
      have ha : answer = .ok Option.none := (Option.some.inj h).symm
      exact Or.inr ⟨address, headers, ha ▸ rfl⟩
    | _ => simp [Mishap.answer?] at h

/-- Which requests come to grief, given those before them. -/
abbrev Mishaps := List Event → Request → Option Mishap

def Mishaps.none : Mishaps := fun _ _ => Option.none

/-- The answer to a request that comes to grief after the given events. -/
def Mishaps.answer? (plan : Mishaps) (past : List Event) (r : Request) : Option (Answer r) :=
  (plan past r).bind (·.answer? r)

@[simp] theorem Mishaps.answer?_none (past : List Event) (r : Request) :
    Mishaps.none.answer? past r = Option.none := rfl

theorem Mishaps.answer?_eq_some {plan : Mishaps} {past : List Event} {e : Event}
    (h : plan.answer? past e.request = some e.answer) :
    (∃ why, e.answer = .error why) ∨
      ∃ address headers, e = ⟨.createUpload address headers, .ok Option.none⟩ := by
  obtain ⟨mishap, _, hm⟩ := Option.bind_eq_some_iff.mp h
  exact Mishap.answer?_eq_some hm

/-- A state of a service with the events so far. -/
structure Noted (σ : Type) where
  state : σ
  events : List Event

namespace Service

variable {σ : Type}

/-- The service with its requests noted down and some of them kept from it. -/
def noted (serve : Service σ) (plan : Mishaps) : Service (Noted σ) := fun r x =>
  match plan.answer? x.events r with
  | some answer => (answer, ⟨x.state, x.events ++ [⟨r, answer⟩]⟩)
  | none =>
    let (answer, s) := serve r x.state
    (answer, ⟨s, x.events ++ [⟨r, answer⟩]⟩)

theorem events_noted (serve : Service σ) (plan : Mishaps) (r : Request) (x : Noted σ) :
    (serve.noted plan r x).2.events = x.events ++ [⟨r, (serve.noted plan r x).1⟩] := by
  unfold noted
  split <;> rfl

/-- Of the requests only that of an upload can be granted by mishap. -/
theorem noted_cases (serve : Service σ) (plan : Mishaps) {r : Request}
    (hr : ∀ address headers, r ≠ .createUpload address headers) (x : Noted σ) :
    (∃ why, serve.noted plan r x = (.error why, ⟨x.state, x.events ++ [⟨r, .error why⟩]⟩)) ∨
      serve.noted plan r x =
        ((serve r x.state).1, ⟨(serve r x.state).2, x.events ++ [⟨r, (serve r x.state).1⟩]⟩) := by
  unfold noted
  cases hplan : plan.answer? x.events r with
  | none => exact .inr rfl
  | some answer =>
    rcases Mishaps.answer?_eq_some (e := ⟨r, answer⟩) hplan with ⟨why, he⟩ | ⟨address, headers, he⟩
    · exact .inl ⟨why, by rw [← he]⟩
    · exact absurd (congrArg Event.request he) (hr address headers)

theorem noted_none {serve : Service σ} {r : Request} {a : Answer r} {x : Noted σ} {s : σ}
    (h : serve r x.state = (a, s)) : serve.noted .none r x = (a, ⟨s, x.events ++ [⟨r, a⟩]⟩) := by
  rw [noted, Mishaps.answer?_none, h]

/-- What a service that started at `s` may have come to after the given events. -/
inductive Trail (serve : Service σ) (plan : Mishaps) (s : σ) : List Event → σ → Prop
  | start : Trail serve plan s [] s
  | missed {past : List Event} {t : σ} {r : Request} {answer : Answer r} :
      Trail serve plan s past t → plan.answer? past r = some answer →
      Trail serve plan s (past ++ [⟨r, answer⟩]) t
  | served {past : List Event} {t : σ} (r : Request) :
      Trail serve plan s past t → plan.answer? past r = none →
      Trail serve plan s (past ++ [⟨r, (serve r t).1⟩]) (serve r t).2

theorem Trail.noted {serve : Service σ} {plan : Mishaps} {s : σ} {x : Noted σ}
    (h : Trail serve plan s x.events x.state) (r : Request) :
    Trail serve plan s (serve.noted plan r x).2.events (serve.noted plan r x).2.state := by
  unfold Service.noted
  split
  · rename_i hm
    exact h.missed hm
  · rename_i hm
    exact h.served r hm

theorem Trail.last {serve : Service σ} {plan : Mishaps} {s t : σ} {past : List Event}
    {e : Event} (h : Trail serve plan s (past ++ [e]) t) :
    ∃ u, Trail serve plan s past u ∧
      ((plan.answer? past e.request = some e.answer ∧ t = u) ∨
        (plan.answer? past e.request = none ∧
          e.answer = (serve e.request u).1 ∧ t = (serve e.request u).2)) := by
  generalize hp : past ++ [e] = events at h
  cases h with
  | start => simp at hp
  | missed h hm =>
    obtain ⟨rfl, he⟩ := List.append_inj' hp rfl
    obtain rfl := List.singleton_inj.mp he
    exact ⟨t, h, Or.inl ⟨hm, rfl⟩⟩
  | served r h hm =>
    obtain ⟨rfl, he⟩ := List.append_inj' hp rfl
    obtain rfl := List.singleton_inj.mp he
    exact ⟨_, h, Or.inr ⟨hm, rfl, rfl⟩⟩

theorem Trail.nil {serve : Service σ} {plan : Mishaps} {s t : σ}
    (h : Trail serve plan s [] t) : t = s := by
  generalize hp : ([] : List Event) = events at h
  cases h with
  | start => rfl
  | missed => simp at hp
  | served => simp at hp

theorem Trail.single {serve : Service σ} {plan : Mishaps} {s t : σ} {e : Event}
    (h : Trail serve plan s [e] t) :
    (plan.answer? [] e.request = some e.answer ∧ t = s) ∨
      (plan.answer? [] e.request = none ∧
        e.answer = (serve e.request s).1 ∧ t = (serve e.request s).2) := by
  rw [← List.nil_append [e]] at h
  obtain ⟨u, hu, hlast⟩ := h.last
  obtain rfl := hu.nil
  exact hlast

end Service

end BlobStore
