import BlobStore.Proofs.Writer.Schedule

/-!
# Where the written bytes are

Whatever the schedule of a writer, the bytes that its upload has read and those that wait in the
queue are the bytes given to the task, in their order. What is kept by the moves of an upload is
kept by those of the task.
-/

namespace BlobStore.Writer

open Upload

variable {σ : Type} {object : NewObject} {p : Nat} {P : ByteArray → Bool → Stage → σ → Prop}

/-- How far a task has come that has been given these bytes, and the end of the body if its writer
is `closing`. -/
def Task.Follows (object : NewObject) (p : Nat) (P : ByteArray → Bool → Stage → σ → Prop)
    (given : ByteArray) (closing : Bool) : Task → σ → Prop
  | .idle, s =>
    given = ByteArray.empty ∧ closing = false ∧ P ByteArray.empty false (.opening Held.start) s
  | .running upload queue bodyEnded, s =>
    bodyEnded = closing ∧ ∃ read ended stage, upload = ⟨object, p, stage⟩ ∧
      read ++ Bytes.join queue = given ∧ (ended = true → closing = true ∧ queue = []) ∧
      P read ended stage s
  | .ended outcome, s =>
    ∃ read rest ended, read ++ Bytes.join rest = given ∧
      (ended = true → closing = true ∧ rest = []) ∧ P read ended (.finished outcome) s

theorem Task.Turn.follows {serve : Service σ} {a b : Task} {s t : σ} {given : ByteArray}
    {closing : Bool} (k : Kept serve object p P) (h : Turn serve a s b t)
    (ha : a.Follows object p P given closing s) : b.Follows object p P given closing t := by
  cases h with
  | @take upload chunk queue bodyEnded s hc =>
    obtain ⟨hb, read, ended, stage, rfl, hgiven, hend, hP⟩ := ha
    cases ended with
    | true => cases (hend rfl).2
    | false =>
      obtain ⟨after, hfeed, hP'⟩ := k.feed chunk hP hc
      refine ⟨hb, read ++ chunk, false, after, hfeed, ?_, fun h => (by cases h), hP'⟩
      rw [ByteArray.append_assoc, ← Bytes.join_cons, hgiven]
  | finish hc =>
    obtain ⟨hb, read, ended, stage, rfl, hgiven, hend, hP⟩ := ha
    cases ended with
    | true => rw [k.rests hP] at hc; cases hc
    | false =>
      obtain ⟨after, hfeed, hP'⟩ := k.finish hP hc
      exact ⟨hb, read, true, after, hfeed, hgiven, fun _ => ⟨hb.symm, rfl⟩, hP'⟩
  | ask hd =>
    obtain ⟨hb, read, ended, stage, rfl, hgiven, hend, hP⟩ := ha
    obtain ⟨next, hasks, rfl⟩ := asks_of_demand hd
    exact ⟨hb, read, ended, _, rfl, hgiven, hend, k.answer hasks hP⟩
  | @report upload queue bodyEnded s outcome hd =>
    obtain ⟨hb, read, ended, stage, rfl, hgiven, hend, hP⟩ := ha
    obtain rfl : stage = .finished outcome := finished_of_demand hd
    exact ⟨read, queue, ended, hgiven, hend, hP⟩

theorem follows_start {w : Writer} {s : σ} {given : ByteArray} {closing : Bool}
    (ho : w.object = object) (hsize : w.partSize = p)
    (h : w.task.Follows object p P given closing s) :
    w.start.task ≠ .idle ∧ w.start.task.Follows object p P given closing s := by
  obtain ⟨_, _, canceled, task⟩ := w
  obtain rfl := ho
  obtain rfl := hsize
  cases task with
  | idle =>
    obtain ⟨rfl, rfl, hP⟩ := h
    refine ⟨fun h => (by cases h), rfl, ByteArray.empty, false, _, rfl, ?_, fun h => (by cases h), hP⟩
    rw [Bytes.join_nil, ByteArray.append_empty]
  | running | ended => exact ⟨fun h => (by cases h), h⟩

theorem follows_push {w w' : Writer} {s : σ} {given chunk : ByteArray}
    (hpush : w.push? chunk = some w') (h : w.task.Follows object p P given false s) :
    w'.task.Follows object p P (given ++ chunk) false s := by
  obtain ⟨upload, queue, bodyEnded, ht, _, rfl⟩ := push?_eq_some hpush
  rw [ht] at h
  obtain ⟨hb, read, ended, stage, rfl, rfl, hend, hP⟩ := h
  refine ⟨hb, read, ended, stage, rfl, ?_, fun h => (by cases (hend h).1), hP⟩
  rw [Bytes.join_append, Bytes.join_cons, Bytes.join_nil, ByteArray.append_empty,
    ByteArray.append_assoc]

theorem follows_endBody {w : Writer} {s : σ} {given : ByteArray} (hn : w.task ≠ .idle)
    (h : w.task.Follows object p P given false s) :
    w.endBody.task ≠ .idle ∧ w.endBody.task.Follows object p P given true s := by
  obtain ⟨o, size, canceled, task⟩ := w
  cases task with
  | idle => exact absurd rfl hn
  | running upload queue bodyEnded =>
    obtain ⟨hb, read, ended, stage, hu, hgiven, hend, hP⟩ := h
    exact ⟨fun h => (by cases h), rfl, read, ended, stage, hu, hgiven,
      fun h => (by cases (hend h).1), hP⟩
  | ended outcome =>
    obtain ⟨read, rest, ended, hgiven, hend, hP⟩ := h
    exact ⟨fun h => (by cases h), read, rest, ended, hgiven, fun h => (by cases (hend h).1), hP⟩

end BlobStore.Writer
