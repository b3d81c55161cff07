import BlobStore.Memory
import BlobStore.Proofs.Upload.Moves

/-!
# The chunks of a body do not show

However a body is cut into chunks, its upload makes the same requests and ends the same way. A chunk
that is read while a request is being made could as well have been read before it, so two chunks
are as good as one.
-/

namespace BlobStore.Upload

/-- The end of the body has not been read, so nothing has been decided that depends on it. -/
def Stage.IsOpen : Stage → Prop
  | .opening held => held.ended = false
  | .creating _ rest => rest.ended = false
  | .sending _ _ _ rest => rest.ended = false
  | .gathering _ _ held => held.ended = false
  | .aborting _ _ => True
  | .finished _ => True
  | .storing _ => False
  | .completing _ _ => False

/-- The stage with one more chunk read. While a request is being made the chunk waits behind what
has been read before. -/
def Stage.extend (p : Nat) (chunk : ByteArray) : Stage → Stage
  | .opening held => .afterOpening p (held.add (some chunk))
  | .creating part rest => .creating part (rest.add (some chunk))
  | .sending id sent part rest => .sending id sent part (rest.add (some chunk))
  | .gathering id sent held => .afterGathering p id sent (held.add (some chunk))
  | stage => stage

private theorem part_add {p : Nat} {held : Held} (hlt : p < held.bytes.size) (chunk : ByteArray) :
    (held.add (some chunk)).part p = held.part p := by
  simp only [Held.part, Held.bytes_add_some, ByteArray.extract_append]
  have hzero : p - held.bytes.size = 0 := by omega
  rw [hzero, Nat.zero_sub, ByteArray.extract_same, ByteArray.append_empty]

private theorem rest_add {p : Nat} {held : Held} (hlt : p < held.bytes.size) (chunk : ByteArray) :
    (held.add (some chunk)).rest p = (held.rest p).add (some chunk) := by
  simp only [Held.rest, Held.add, ByteArray.extract_append, ByteArray.size_append, Held.mk.injEq,
    and_true]
  have hstart : p - held.bytes.size = 0 := by omega
  have hend : held.bytes.size + chunk.size - held.bytes.size = chunk.size := by omega
  rw [hstart, hend, ByteArray.extract_zero_size]
  congr 1
  apply ByteArray.ext
  rw [ByteArray.data_extract, ByteArray.data_extract, Array.extract_eq_extract_right]
  simp only [ByteArray.size_data]
  omega

private theorem isReady_of_open {p : Nat} {held : Held} (ho : held.ended = false) :
    held.isReady p = true ↔ p < held.bytes.size := by
  rw [Held.isReady_eq_true, ho]
  simp

private theorem afterOpening_add {p : Nat} {held : Held} (ho : held.ended = false)
    (chunk : ByteArray) :
    Stage.afterOpening p (held.add (some chunk)) = (Stage.afterOpening p held).extend p chunk := by
  by_cases hlt : p < held.bytes.size
  · have hr := (isReady_of_open ho).mpr hlt
    have hr' : (held.add (some chunk)).isReady p = true := by
      rw [Held.isReady_eq_true, Held.bytes_add_some, ByteArray.size_append]
      omega
    rw [Stage.afterOpening, Stage.afterOpening, if_pos hr, if_pos hr', part_add hlt, rest_add hlt]
    simp only [Held.ended_rest, Held.ended_add_some, ho, Bool.false_and, Bool.false_eq_true,
      if_false, Stage.extend]
  · have hr : ¬held.isReady p = true := fun h => hlt ((isReady_of_open ho).mp h)
    have hkeep : Stage.afterOpening p held = .opening held := if_neg hr
    rw [hkeep]
    rfl

private theorem afterGathering_add {p : Nat} {id : String} {sent : Array PartReceipt}
    {held : Held} (ho : held.ended = false) (chunk : ByteArray) :
    Stage.afterGathering p id sent (held.add (some chunk)) =
      (Stage.afterGathering p id sent held).extend p chunk := by
  by_cases hlt : p < held.bytes.size
  · have hr := (isReady_of_open ho).mpr hlt
    have hr' : (held.add (some chunk)).isReady p = true := by
      rw [Held.isReady_eq_true, Held.bytes_add_some, ByteArray.size_append]
      omega
    have hsome : ¬held.isEmpty = true := by
      rw [Held.isEmpty_eq_true]
      omega
    have hsome' : ¬(held.add (some chunk)).isEmpty = true := by
      rw [Held.isEmpty_eq_true, Held.bytes_add_some, ByteArray.size_append]
      omega
    rw [Stage.afterGathering, Stage.afterGathering, if_pos hr, if_pos hr', if_neg hsome,
      if_neg hsome', part_add hlt, rest_add hlt]
    split <;> rfl
  · have hr : ¬held.isReady p = true := fun h => hlt ((isReady_of_open ho).mp h)
    have hkeep : Stage.afterGathering p id sent held = .gathering id sent held := if_neg hr
    rw [hkeep]
    rfl

private theorem isOpen_afterOpening {p : Nat} {held : Held} (ho : held.ended = false) :
    (Stage.afterOpening p held).IsOpen := by
  unfold Stage.afterOpening
  split
  · simp only [Held.ended_rest, ho, Bool.false_and, Bool.false_eq_true, if_false]
    exact ho
  · exact ho

private theorem isOpen_afterGathering {p : Nat} {id : String} {sent : Array PartReceipt}
    {held : Held} (ho : held.ended = false) : (Stage.afterGathering p id sent held).IsOpen := by
  unfold Stage.afterGathering
  split
  · rename_i hr
    have hlt := (isReady_of_open ho).mp hr
    have hsome : ¬held.isEmpty = true := by
      rw [Held.isEmpty_eq_true]
      omega
    rw [if_neg hsome]
    split
    · exact trivial
    · exact ho
  · exact ho

private theorem isOpen_extend {p : Nat} {stage : Stage} (h : stage.IsOpen) (chunk : ByteArray) :
    (stage.extend p chunk).IsOpen := by
  cases stage with
  | opening held => exact isOpen_afterOpening h
  | gathering id sent held => exact isOpen_afterGathering h
  | _ => exact h

private theorem Asks.congr {object : NewObject} {p : Nat} {stage : Stage} {r : Request}
    {next next' : Answer r → Stage} (ha : Asks object p stage r next) (h : ∀ a, next a = next' a) :
    Asks object p stage r next' := by
  obtain rfl : next = next' := funext h
  exact ha

private theorem Asks.extend {object : NewObject} {p : Nat} {stage : Stage} {r : Request}
    {next : Answer r → Stage} (ha : Asks object p stage r next) (h : stage.IsOpen)
    (chunk : ByteArray) :
    (∀ a, (next a).IsOpen) ∧
      Asks object p (stage.extend p chunk) r fun a => (next a).extend p chunk := by
  cases ha with
  | storing => exact h.elim
  | completing => exact h.elim
  | creating part rest =>
    constructor
    · rintro (_ | _ | _)
      · exact trivial
      · exact trivial
      · exact h
    · refine (Asks.creating part (rest.add (some chunk))).congr ?_
      rintro (_ | _ | _) <;> rfl
  | sending id sent part rest =>
    constructor
    · rintro (_ | _)
      · exact trivial
      · exact isOpen_afterGathering h
    · refine (Asks.sending id sent part (rest.add (some chunk))).congr ?_
      rintro (_ | _)
      · rfl
      · exact afterGathering_add h chunk
  | aborting id why => exact ⟨fun _ => trivial, .aborting id why⟩

variable {σ : Type}

private theorem settle_extend (serve : Service σ) (object : NewObject) (p : Nat)
    (chunk : ByteArray) (stage : Stage) (h : stage.IsOpen) (s : σ) :
    ∃ last t, settle serve ⟨object, p, stage⟩ s = (⟨object, p, last⟩, t) ∧ last.IsOpen ∧
      IsResting ⟨object, p, last⟩ ∧
      settle serve ⟨object, p, stage.extend p chunk⟩ s =
        settle serve ⟨object, p, last.extend p chunk⟩ t := by
  -- Both uploads ask the same, up to where the one without the chunk waits for it.
  induction hn : stage.rank using Nat.strongRecOn generalizing stage s with
  | ind n ih =>
    rcases asks_or_rests object p stage with ⟨r, next, ha⟩ | hrest
    · obtain ⟨hopen, ha'⟩ := ha.extend h chunk
      rw [settle_of_asks ha, settle_of_asks ha']
      exact ih _ (hn ▸ rank_lt_of_asks ha _) _ (hopen _) _ rfl
    · exact ⟨stage, s, settle_of_isResting hrest s, h, hrest, rfl⟩

private theorem run_cons {serve : Service σ} {object : NewObject} {p : Nat} {stage : Stage}
    (h : IsResting ⟨object, p, stage⟩) (chunk : ByteArray) (chunks : List ByteArray) (s : σ) :
    run serve .complete (chunk :: chunks) ⟨object, p, stage⟩ s =
      run serve .complete chunks (settle serve ⟨object, p, stage.extend p chunk⟩ s).1
        (settle serve ⟨object, p, stage.extend p chunk⟩ s).2 := by
  rcases h with hc | ⟨outcome, rfl⟩
  · have hfeed : feed ⟨object, p, stage⟩ (some chunk) = ⟨object, p, stage.extend p chunk⟩ := by
      rcases needsChunk_eq_true hc with ⟨held, rfl⟩ | ⟨id, sent, held, rfl⟩
      · exact feed_opening ..
      · exact feed_gathering ..
    rw [run, if_pos hc, hfeed]
  · have hover : ∀ chunks, run serve .complete chunks ⟨object, p, .finished outcome⟩ s =
        (outcome, s) := by
      rintro (_ | ⟨_, _⟩)
      · rw [run]
        simp only [feed_of_rests (u := ⟨object, p, .finished outcome⟩) rfl, settle_finished]
        rfl
      · rfl
    rw [Stage.extend, settle_finished, hover, hover]
    all_goals simp

private theorem extend_extend {p : Nat} {stage : Stage} (h : stage.IsOpen) (c d : ByteArray) :
    (stage.extend p c).extend p d = stage.extend p (c ++ d) := by
  have hadd : ∀ held : Held, (held.add (some c)).add (some d) = held.add (some (c ++ d)) := by
    intro held
    simp only [Held.add, ByteArray.append_assoc]
  cases stage with
  | opening held =>
    have ho : (held.add (some c)).ended = false := h
    simp only [Stage.extend]
    rw [← hadd, afterOpening_add ho]
    rfl
  | gathering id sent held =>
    have ho : (held.add (some c)).ended = false := h
    simp only [Stage.extend]
    rw [← hadd, afterGathering_add ho]
    rfl
  | creating | sending => simp only [Stage.extend, hadd]
  | _ => rfl

/-- Two chunks are as good as one. -/
theorem run_append (serve : Service σ) {object : NewObject} {p : Nat} {stage : Stage}
    (ho : stage.IsOpen) (h : IsResting ⟨object, p, stage⟩) (c d : ByteArray)
    (chunks : List ByteArray) (s : σ) :
    run serve .complete (c :: d :: chunks) ⟨object, p, stage⟩ s =
      run serve .complete ((c ++ d) :: chunks) ⟨object, p, stage⟩ s := by
  obtain ⟨last, t, hsettle, _, hrest, hcomm⟩ :=
    settle_extend serve object p d _ (isOpen_extend (p := p) ho c) s
  rw [run_cons h, run_cons h, hsettle, run_cons hrest, ← hcomm, extend_extend ho]

private theorem run_join (serve : Service σ) {object : NewObject} {p : Nat} {stage : Stage}
    (ho : stage.IsOpen) (h : IsResting ⟨object, p, stage⟩) (c : ByteArray)
    (chunks : List ByteArray) (s : σ) :
    run serve .complete (c :: chunks) ⟨object, p, stage⟩ s =
      run serve .complete [c ++ Bytes.join chunks] ⟨object, p, stage⟩ s := by
  induction chunks generalizing c with
  | nil => rw [Bytes.join_nil, ByteArray.append_empty]
  | cons d chunks ih =>
    rw [run_append serve ho h, ih, Bytes.join_cons, ByteArray.append_assoc]

/-- A body in chunks is stored like the same body in one chunk. -/
theorem store_join (serve : Service σ) (object : NewObject) (p : Nat) (chunks : List ByteArray)
    (s : σ) :
    store serve object p .complete chunks s =
      store serve object p .complete [Bytes.join chunks] s := by
  have ho : (Stage.opening Held.start).IsOpen := rfl
  have hrest : IsResting (new object p) := Or.inl rfl
  cases chunks with
  | nil =>
    have hextend : (Stage.opening Held.start).extend p ByteArray.empty = .opening Held.start := by
      simp [Stage.extend, Stage.afterOpening, Held.isReady, Held.add, Held.start]
    simp only [store, Bytes.join_nil, new]
    rw [run_cons hrest, hextend, settle_of_isResting (u := ⟨object, p, .opening Held.start⟩) hrest]
  | cons c chunks =>
    simp only [store, Bytes.join_cons]
    exact run_join serve ho hrest c chunks s

/-- An upload makes the same requests, gets the same answers and ends the same way however its body
is cut into chunks. -/
theorem store_eq_of_join_eq (serve : Service σ) (object : NewObject) (p : Nat)
    {xs ys : List ByteArray} (h : Bytes.join xs = Bytes.join ys) (s : σ) :
    store (serve.noted .none) object p .complete xs ⟨s, []⟩ =
      store (serve.noted .none) object p .complete ys ⟨s, []⟩ := by
  rw [store_join, h, ← store_join]

theorem store_eq_of_join_eq_splits :
    store (Memory.serve.noted .none) ⟨⟨"bucket", "key"⟩, .none, none⟩ 2 .complete
        [⟨#[1, 2, 3]⟩, ⟨#[4]⟩] ⟨Memory.empty, []⟩ =
      store (Memory.serve.noted .none) ⟨⟨"bucket", "key"⟩, .none, none⟩ 2 .complete
        [⟨#[]⟩, ⟨#[1]⟩, ⟨#[2, 3, 4]⟩, ⟨#[]⟩] ⟨Memory.empty, []⟩ :=
  store_eq_of_join_eq Memory.serve ⟨⟨"bucket", "key"⟩, .none, none⟩ 2 (by decide) Memory.empty

end BlobStore.Upload
