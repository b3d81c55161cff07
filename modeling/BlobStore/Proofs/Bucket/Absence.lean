import BlobStore.Memory
import BlobStore.Proofs.Action
import BlobStore.Proofs.Mishap

/-!
# Absent objects

An object is taken for absent when the service says so by one of two codes, or answers with status
404 and no code. Nothing else that may go wrong is taken for that, and an object that has not been
found is not deleted.
-/

namespace BlobStore

namespace ExchangeFailure

/-- The failures that tell that there is no such object. -/
inductive TellsAbsence : ExchangeFailure → Prop
  | named {status : Nat} {code : String} {message : Option String}
      (h : code = "NoSuchKey" ∨ code = "NotFound") : TellsAbsence (.refused status (some code) message)
  | unnamed {message : Option String} : TellsAbsence (.refused 404 none message)
  | unreadable : TellsAbsence (.unreadable 404)

end ExchangeFailure

private theorem Fault.errorClass_service (code : String) (message : Option String) :
    (service code message).errorClass = .notFound ↔ code = "NoSuchKey" ∨ code = "NotFound" := by
  unfold errorClass code?
  simp only [Option.some.injEq]
  split
  · rename_i h
    exact iff_of_true rfl h
  · rename_i h
    exact iff_of_false nofun h

private theorem Fault.errorClass_transport (message : Option String) :
    (transport message).errorClass = .unknown :=
  rfl

namespace ExchangeFailure

/-- The class of a fault is made of what the exchange has told, and of nothing else. -/
theorem errorClass_fault (e : ExchangeFailure) :
    e.fault.errorClass = .notFound ↔ e.TellsAbsence := by
  have hmissing : ∀ message, (Fault.service "NotFound" message).errorClass = .notFound := fun message =>
    (Fault.errorClass_service _ message).mpr (.inr rfl)
  cases e with
  | refused status code message =>
    cases code with
    | some code =>
      rw [fault, code?, Fault.errorClass_service]
      constructor
      · exact .named
      · rintro ⟨h⟩
        exact h
    | none =>
      by_cases hstatus : status = 404
      · subst hstatus
        exact iff_of_true (hmissing message) .unnamed
      · have hfault : (refused status none message).fault = .transport message := by
          simp [fault, code?, status?, message?, hstatus]
        rw [hfault, Fault.errorClass_transport]
        refine iff_of_false nofun ?_
        rintro ⟨⟩
        exact hstatus rfl
  | unreadable status =>
    by_cases hstatus : status = 404
    · subst hstatus
      exact iff_of_true (hmissing none) .unreadable
    · have hfault : (unreadable status).fault = .transport none := by
        simp [fault, code?, status?, message?, hstatus]
      rw [hfault, Fault.errorClass_transport]
      refine iff_of_false nofun ?_
      rintro ⟨⟩
      exact hstatus rfl
  | unanswered =>
    have hfault : unanswered.fault = .transport none := rfl
    rw [hfault, Fault.errorClass_transport]
    exact iff_of_false nofun nofun

end ExchangeFailure

private theorem Error.exitStatus_ofFault (f : Fault) :
    (ofFault f).exitStatus = if f.errorClass = .notFound then .notFound else .failure := by
  rw [ofFault]
  cases f.errorClass <;> rfl

namespace Bucket

variable {σ : Type} {b : Bucket σ} {s t : σ} {key : String}

private theorem attributes_of_missed {why : Fault}
    (h : b.serve (.head (b.address key)) s = (.error why, t)) :
    b.attributes key s = (.error (.ofFault why), t) := by
  unfold attributes
  exact bind_of_error (request_of_refused h) _

theorem delete_of_missed {why : Fault}
    (h : b.serve (.head (b.address key)) s = (.error why, t)) :
    b.delete key s = (.error (.ofFault why), t) := by
  unfold delete
  exact bind_of_error (attributes_of_missed h) _

theorem delete_of_found {head : Head}
    (h : b.serve (.head (b.address key)) s = (.ok head, t)) :
    b.delete key s = b.request (.delete (b.address key)) t := by
  have hattributes : b.attributes key s = (.ok (.ofHead head), t) := by
    unfold attributes
    exact bind_of_ok (request_of_granted h) _
  unfold delete
  exact bind_of_ok hattributes _

private theorem contains_of_missed {why : Fault}
    (h : b.serve (.head (b.address key)) s = (.error why, t)) :
    b.contains key s =
      (if why.errorClass = .notFound then .ok false else .error (.ofFault why), t) := by
  unfold contains
  rw [attributes_of_missed h]
  exact (apply_ite (fun result => (result, t)) _ _ _).symm

/-- An exchange fails for lack of the object just if it tells so, which shows in the class of the
error and in the exit status. A bucket that is refused an answer about an object says that there is
none just if the error is of this class, and hands on any other error; to delete the object it makes
no further request. -/
theorem absence_exact (serve : Service σ) (plan : Mishaps) (name key : String) (x : Noted σ) :
    (∀ e : ExchangeFailure, let error := Error.ofFault e.fault
      (e.TellsAbsence ∧ error.errorClass = .notFound ∧ error.exitStatus.code = 5) ∨
        (¬e.TellsAbsence ∧ error.errorClass = .unknown ∧ error.exitStatus.code = 1)) ∧
    ∀ why : Fault, (serve.noted plan (.head ⟨name, key⟩) x).1 = .error why →
      let b : Bucket (Noted σ) := ⟨name, serve.noted plan⟩
      let error := Error.ofFault why
      ((b.contains key x).1 = .ok false ↔ error.errorClass = .notFound) ∧
      (error.errorClass ≠ .notFound → (b.contains key x).1 = .error error) ∧
      (b.contains key x).2.events = x.events ++ [⟨.head ⟨name, key⟩, .error why⟩] ∧
      (b.delete key x).1 = .error error ∧
      (b.delete key x).2.events = x.events ++ [⟨.head ⟨name, key⟩, .error why⟩] := by
  refine ⟨fun e => ?_, fun why hwhy => ?_⟩
  · have hclass : (Error.ofFault e.fault).errorClass = e.fault.errorClass := rfl
    dsimp only
    rw [hclass, Error.exitStatus_ofFault, ← e.errorClass_fault]
    cases e.fault.errorClass with
    | notFound => exact .inl ⟨rfl, rfl, rfl⟩
    | unknown => exact .inr ⟨nofun, rfl, rfl⟩
  · intro b error
    have hevents := Service.events_noted serve plan (.head ⟨name, key⟩) x
    rw [hwhy] at hevents
    have hserve : b.serve (.head (b.address key)) x =
        (.error why, (serve.noted plan (.head ⟨name, key⟩) x).2) := Prod.ext hwhy rfl
    have hclass : error.errorClass = why.errorClass := rfl
    rw [contains_of_missed hserve, delete_of_missed hserve, hclass]
    generalize why.errorClass = c
    cases c with
    | notFound => exact ⟨iff_of_true rfl rfl, fun h => absurd rfl h, hevents, rfl, hevents⟩
    | unknown => exact ⟨iff_of_false nofun nofun, fun _ => rfl, hevents, rfl, hevents⟩

/-- Access that is denied is no absence. -/
theorem absence_exact_denied :
    let denied : Fault := .service "AccessDenied" none
    let plan : Mishaps := fun _ _ => some (.refused denied)
    let b : Bucket (Noted Memory) := ⟨"b", Memory.serve.noted plan⟩
    let x : Noted Memory := ⟨.empty, []⟩
    (b.serve (.head ⟨"b", "k"⟩) x).1 = .error denied ∧
      (b.contains "k" x).1 = .error (.ofFault denied) ∧
      (b.delete "k" x).2.events = [⟨.head ⟨"b", "k"⟩, .error denied⟩] := by
  intro denied plan b x
  obtain ⟨-, hother, -, -, hevents⟩ :=
    (absence_exact Memory.serve plan "b" "k" x).2 denied rfl
  exact ⟨rfl, hother (by decide), hevents⟩

end Bucket

end BlobStore
