import BlobStore.Proofs.Upload.Atomicity

/-!
# Uploads that nothing keeps from the memory

The memory by itself refuses no request of an upload, so a body that fits into the allowed number of
parts gets stored. Until the last request nothing shows of it.
-/

namespace BlobStore.Upload

variable {plan : Mishaps} {m t : Memory} {object : NewObject} {p : Nat} {read : ByteArray}

private theorem not_stopped {id? : Option String} {events : List Event} {why : Fault}
    (hs : Stopped object p read id? events why) (hsize : read.size ≤ maxParts * p)
    (h : Service.Trail Memory.serve .none m events t) : False := by
  cases hs with
  | put | create | unnamed =>
    rcases h.single with ⟨hmishap, _⟩ | ⟨-, ha, _⟩
    · cases hmishap
    · cases ha
  | tooMany hnumbered hlen hlt => omega
  | part =>
    obtain ⟨u, hu, hlast⟩ := h.last
    obtain ⟨rfl, rfl⟩ := Memory.trail_opened hu
    rcases hlast with ⟨hmishap, _⟩ | ⟨-, ha, _⟩
    · cases hmishap
    · simp only [Memory.serve, Memory.uploadPart_holding] at ha
      cases ha
  | complete hsent hnumbered =>
    obtain ⟨u, hu, hlast⟩ := h.last
    obtain ⟨rfl, rfl⟩ := Memory.trail_opened hu
    rcases hlast with ⟨hmishap, _⟩ | ⟨-, ha, _⟩
    · cases hmishap
    · simp only [Memory.serve, Memory.completeUpload, Memory.get?_holding, hsent,
        Memory.joinParts_numbered hnumbered] at ha
      cases ha

theorem not_failed {events : List Event} {why : Fault} (hf : Failed object p read events why)
    (hsize : read.size ≤ maxParts * p) (h : Service.Trail Memory.serve .none m events t) :
    False := by
  cases hf with
  | early hs => exact not_stopped hs hsize h
  | aborted hs =>
    obtain ⟨u, hu, _⟩ := h.last
    exact not_stopped hs hsize hu

theorem isReading_or_finished {ended : Bool} {stage : Stage} {events : List Event}
    (hlog : stage.Logged object p read ended events) (hsize : read.size ≤ maxParts * p)
    (h : Service.Trail Memory.serve .none m events t) :
    stage.isReading = true ∨ stage = .finished (.ok ()) := by
  cases stage with
  | aborting id why => exact (not_stopped hlog hsize h).elim
  | finished outcome =>
    cases outcome with
    | error why => exact (not_failed hlog hsize h).elim
    | ok => exact Or.inr rfl
  | _ => exact Or.inl rfl

/-- No object changes before the upload has finished well, whatever comes to grief. -/
theorem objects_of_logged {ended : Bool} {stage : Stage} {events : List Event} (hm : m.Issued)
    (hlog : stage.Logged object p read ended events)
    (h : Service.Trail Memory.serve plan m events t) (hn : stage ≠ .finished (.ok ())) :
    t.objects = m.objects := by
  cases stage with
  | opening | storing | creating =>
    obtain ⟨rfl, _⟩ := hlog
    rw [h.nil]
  | sending =>
    obtain ⟨_, _, _, parts, rfl, _⟩ := hlog
    rw [(Memory.trail_opened h).2]
    rfl
  | gathering =>
    obtain ⟨_, _, _, _, _, _, parts, rfl, _⟩ := hlog
    rw [(Memory.trail_opened h).2]
    rfl
  | completing =>
    obtain ⟨_, _, _, parts, rfl, _⟩ := hlog
    rw [(Memory.trail_opened h).2]
    rfl
  | aborting id why => exact (trail_named hm (Stopped.givenUp hlog) h).1
  | finished outcome =>
    cases outcome with
    | error why => exact (trail_abandoned hm (Failed.abandoned hlog) h).1
    | ok => exact absurd rfl hn

end BlobStore.Upload
