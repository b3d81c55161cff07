import BlobStore.Proofs.Upload.Parts

/-!
# Moves of an upload

An upload moves when it is handed a chunk or the end of its body, and when a request is answered.
What holds at the start and is kept by each of these moves holds at the end of every run.
-/

namespace BlobStore.Upload

/-- What an upload asks the service at each stage, and where the answer leads. -/
inductive Asks (object : NewObject) (p : Nat) : Stage → (r : Request) → (Answer r → Stage) → Prop
  | storing (body : ByteArray) : Asks object p (.storing body) (.put object (.ofBytes body)) .finished
  | creating (part : ByteArray) (rest : Held) :
      Asks object p (.creating part rest) (.createUpload object.address object.headers)
        (.afterCreating part rest)
  | sending (id : String) (sent : Array PartReceipt) (part : ByteArray) (rest : Held) :
      Asks object p (.sending id sent part rest)
        (.uploadPart object.address id (sent.size + 1) (.ofBytes part)) (.afterSending p id sent rest)
  | completing (id : String) (sent : Array PartReceipt) :
      Asks object p (.completing id sent) (.completeUpload object.address id sent)
        (.afterCompleting id)
  | aborting (id : String) (why : Fault) :
      Asks object p (.aborting id why) (.abortUpload object.address id)
        fun _ => .finished (.error why)

theorem asks_of_demand {object : NewObject} {p : Nat} {stage : Stage} {r : Request}
    {resume : Answer r → Upload} (h : (Upload.mk object p stage).demand = .answer r resume) :
    ∃ next, Asks object p stage r next ∧ resume = fun a => ⟨object, p, next a⟩ := by
  cases stage <;> simp only [demand, Demand.answer.injEq, reduceCtorEq] at h
  all_goals
    obtain ⟨rfl, h⟩ := h
    cases h
  · exact ⟨_, .storing _, rfl⟩
  · exact ⟨_, .creating _ _, rfl⟩
  · exact ⟨_, .sending _ _ _ _, rfl⟩
  · exact ⟨_, .completing _ _, rfl⟩
  · exact ⟨_, .aborting _ _, rfl⟩

theorem Asks.demand {object : NewObject} {p : Nat} {stage : Stage} {r : Request}
    {next : Answer r → Stage} (h : Asks object p stage r next) :
    (Upload.mk object p stage).demand = .answer r fun a => ⟨object, p, next a⟩ := by
  cases h <;> rfl

theorem finished_of_demand {u : Upload} {outcome : Except Fault Unit}
    (h : u.demand = .nothing outcome) : u.stage = .finished outcome := by
  obtain ⟨object, p, stage⟩ := u
  cases stage <;> simp only [demand, Demand.nothing.injEq, reduceCtorEq] at h
  rw [h]

/-- The upload has no request to make: it waits for a chunk or is over. -/
def IsResting (u : Upload) : Prop := u.needsChunk = true ∨ ∃ outcome, u.stage = .finished outcome

/-- The upload has not stopped reading its body. -/
def Stage.isReading : Stage → Bool
  | .aborting _ _ => false
  | .finished _ => false
  | _ => true

theorem asks_or_rests (object : NewObject) (p : Nat) (stage : Stage) :
    (∃ r next, Asks object p stage r next) ∨ IsResting ⟨object, p, stage⟩ := by
  cases stage with
  | opening | gathering => exact Or.inr (Or.inl rfl)
  | finished outcome => exact Or.inr (Or.inr ⟨outcome, rfl⟩)
  | storing body => exact Or.inl ⟨_, _, .storing body⟩
  | creating part rest => exact Or.inl ⟨_, _, .creating part rest⟩
  | sending id sent part rest => exact Or.inl ⟨_, _, .sending id sent part rest⟩
  | completing id sent => exact Or.inl ⟨_, _, .completing id sent⟩
  | aborting id why => exact Or.inl ⟨_, _, .aborting id why⟩

theorem needsChunk_eq_true {object : NewObject} {p : Nat} {stage : Stage}
    (h : (Upload.mk object p stage).needsChunk = true) :
    (∃ held, stage = .opening held) ∨ ∃ id sent held, stage = .gathering id sent held := by
  cases stage with
  | opening held => exact Or.inl ⟨held, rfl⟩
  | gathering id sent held => exact Or.inr ⟨id, sent, held, rfl⟩
  | _ => simp [needsChunk, demand] at h

theorem feed_opening (object : NewObject) (p : Nat) (held : Held) (chunk : Option ByteArray) :
    feed ⟨object, p, .opening held⟩ chunk = ⟨object, p, .afterOpening p (held.add chunk)⟩ := rfl

theorem feed_gathering (object : NewObject) (p : Nat) (id : String) (sent : Array PartReceipt)
    (held : Held) (chunk : Option ByteArray) :
    feed ⟨object, p, .gathering id sent held⟩ chunk =
      ⟨object, p, .afterGathering p id sent (held.add chunk)⟩ := rfl

theorem feed_of_rests {u : Upload} (h : u.needsChunk = false) (chunk : Option ByteArray) :
    u.feed chunk = u := by
  unfold feed
  unfold needsChunk at h
  cases hd : u.demand <;> simp_all

variable {σ : Type}

theorem settle_of_asks {serve : Service σ} {object : NewObject} {p : Nat} {stage : Stage}
    {r : Request} {next : Answer r → Stage} (h : Asks object p stage r next) (s : σ) :
    settle serve ⟨object, p, stage⟩ s = settle serve ⟨object, p, next (serve r s).1⟩ (serve r s).2 := by
  rw [settle]
  split
  · rename_i hd
    rw [h.demand] at hd
    cases hd
    rfl
  · rename_i hd
    rw [h.demand] at hd
    cases hd
  · rename_i hd
    rw [h.demand] at hd
    cases hd

private theorem settle_of_needsChunk {serve : Service σ} {u : Upload} (h : u.needsChunk = true)
    (s : σ) :
    settle serve u s = (u, s) := by
  unfold needsChunk at h
  rw [settle]
  split <;> simp_all

theorem settle_finished (serve : Service σ) (object : NewObject) (p : Nat)
    (outcome : Except Fault Unit) (s : σ) :
    settle serve ⟨object, p, .finished outcome⟩ s = (⟨object, p, .finished outcome⟩, s) := by
  rw [settle]
  rfl

theorem settle_of_isResting {serve : Service σ} {u : Upload} (h : u.IsResting) (s : σ) :
    settle serve u s = (u, s) := by
  rcases h with hc | ⟨outcome, ho⟩
  · exact settle_of_needsChunk hc s
  · obtain ⟨object, p, stage⟩ := u
    obtain rfl := ho
    exact settle_finished serve object p outcome s

theorem rank_lt_of_asks {object : NewObject} {p : Nat} {stage : Stage} {r : Request}
    {next : Answer r → Stage} (h : Asks object p stage r next) (a : Answer r) :
    (next a).rank < stage.rank :=
  rank_lt_of_demand h.demand a

theorem rank_feed_some (u : Upload) (chunk : ByteArray) :
    (u.feed (some chunk)).stage.rank ≤ u.stage.rank := by
  obtain ⟨object, p, stage⟩ := u
  cases stage with
  | opening held =>
    rw [feed_opening]
    dsimp only
    unfold Stage.afterOpening
    split
    · dsimp only
      split
      · simp only [Stage.rank]
        omega
      · simp only [Stage.rank]
        omega
    · exact Nat.le_refl _
  | gathering id sent held => exact Stage.rank_afterGathering p id sent _
  | _ => exact Nat.le_refl _

theorem rank_feed_none {u : Upload} (h : u.needsChunk = true) :
    (u.feed none).stage.rank < u.stage.rank := by
  obtain ⟨object, p, stage⟩ := u
  rcases needsChunk_eq_true h with ⟨held, rfl⟩ | ⟨id, sent, held, rfl⟩
  · have hr : (held.add none).isReady p = true := Held.isReady_eq_true.mpr (Or.inl rfl)
    rw [feed_opening]
    dsimp only
    rw [Stage.afterOpening, if_pos hr]
    dsimp only
    split
    · simp only [Stage.rank]
      omega
    · simp only [Stage.rank]
      omega
  · have hr : (held.add none).isReady p = true := Held.isReady_eq_true.mpr (Or.inl rfl)
    rw [feed_gathering]
    dsimp only
    rw [Stage.afterGathering, if_pos hr]
    split
    · simp only [Stage.rank]
      split <;> omega
    · split
      · simp only [Stage.rank]
        split <;> omega
      · rename_i hroom
        simp only [Stage.rank, if_pos (Nat.lt_of_not_le hroom)]
        omega

theorem settle_keeps {serve : Service σ} {object : NewObject} {p : Nat} {P : Stage → σ → Prop}
    (answer : ∀ {stage r next s}, Asks object p stage r next → P stage s →
      P (next (serve r s).1) (serve r s).2)
    (stage : Stage) (s : σ) (h : P stage s) :
    ∃ last t, settle serve ⟨object, p, stage⟩ s = (⟨object, p, last⟩, t) ∧ P last t ∧
      IsResting ⟨object, p, last⟩ := by
  -- Every answer lowers the rank of the stage, so this is an induction on the requests to come.
  induction hn : stage.rank using Nat.strongRecOn generalizing stage s with
  | ind n ih =>
    rcases asks_or_rests object p stage with ⟨r, next, ha⟩ | hrest
    · rw [settle_of_asks ha]
      exact ih _ (hn ▸ rank_lt_of_asks ha _) _ _ (answer ha h) rfl
    · exact ⟨stage, s, settle_of_isResting hrest s, h, hrest⟩

/-- The end of the body has been read. -/
def Stage.IsOver : Stage → Prop
  | .opening _ => False
  | .gathering _ _ _ => False
  | .creating _ rest => rest.ended = true
  | .sending _ _ _ rest => rest.ended = true
  | _ => True

private theorem isOver_afterOpening {p : Nat} {held : Held} (h : held.ended = true) :
    (Stage.afterOpening p held).IsOver := by
  rw [Stage.afterOpening, if_pos (Held.isReady_eq_true.mpr (Or.inl h))]
  dsimp only
  split
  · exact trivial
  · exact h

private theorem isOver_afterGathering {p : Nat} {id : String} {sent : Array PartReceipt}
    {held : Held} (h : held.ended = true) : (Stage.afterGathering p id sent held).IsOver := by
  rw [Stage.afterGathering, if_pos (Held.isReady_eq_true.mpr (Or.inl h))]
  split
  · exact trivial
  · split
    · exact trivial
    · exact h

private theorem Asks.isOver {object : NewObject} {p : Nat} {stage : Stage} {r : Request}
    {next : Answer r → Stage} (ha : Asks object p stage r next) (h : stage.IsOver) (a : Answer r) :
    (next a).IsOver := by
  cases ha with
  | storing | aborting => exact trivial
  | creating => rcases a with _ | _ | _ <;> first | exact trivial | exact h
  | sending =>
    cases a with
    | error => exact trivial
    | ok => exact isOver_afterGathering h
  | completing => cases a <;> exact trivial

theorem settle_feed_none (serve : Service σ) {u : Upload} (h : u.needsChunk = true) (s : σ) :
    ((u.feed none).settle serve s).1.needsChunk = false := by
  obtain ⟨object, p, stage⟩ := u
  have hover : (feed ⟨object, p, stage⟩ none).stage.IsOver := by
    rcases needsChunk_eq_true h with ⟨held, rfl⟩ | ⟨id, sent, held, rfl⟩
    · rw [feed_opening]
      dsimp only
      exact isOver_afterOpening held.ended_add_none
    · rw [feed_gathering]
      dsimp only
      exact isOver_afterGathering held.ended_add_none
  have hsame : feed ⟨object, p, stage⟩ none = ⟨object, p, (feed ⟨object, p, stage⟩ none).stage⟩ := by
    rcases needsChunk_eq_true h with ⟨held, rfl⟩ | ⟨id, sent, held, rfl⟩ <;> rfl
  obtain ⟨last, t, hs, hlast, _⟩ := settle_keeps (P := fun stage (_ : σ) => stage.IsOver)
    (fun ha h => ha.isOver h _) _ s hover
  rw [hsame, hs]
  cases last with
  | opening | gathering => exact hlast.elim
  | _ => rfl

/-- What is known of the bytes read so far, of whether the body has ended, of the stage and of the
service, and is kept by every chunk, by the end of the body and by every answer. -/
structure Kept (serve : Service σ) (object : NewObject) (p : Nat)
    (P : ByteArray → Bool → Stage → σ → Prop) : Prop where
  answer : ∀ {read ended stage r next s}, Asks object p stage r next → P read ended stage s →
    P read ended (next (serve r s).1) (serve r s).2
  opening : ∀ {read held chunk s}, P read false (.opening held) s →
    P (read ++ chunk) false (.afterOpening p (held.add (some chunk))) s
  gathering : ∀ {read id sent held chunk s}, P read false (.gathering id sent held) s →
    P (read ++ chunk) false (.afterGathering p id sent (held.add (some chunk))) s
  openingEnd : ∀ {read held s}, P read false (.opening held) s →
    P read true (.afterOpening p (held.add none)) s
  gatheringEnd : ∀ {read id sent held s}, P read false (.gathering id sent held) s →
    P read true (.afterGathering p id sent (held.add none)) s
  /-- After the end of the body no chunk is needed. -/
  rests : ∀ {read stage s}, P read true stage s → (Upload.mk object p stage).needsChunk = false

namespace Kept

variable {serve : Service σ} {object : NewObject} {p : Nat}
  {P : ByteArray → Bool → Stage → σ → Prop}

theorem and (k : Kept serve object p P) {Q : σ → Prop} (hQ : ∀ r s, Q s → Q (serve r s).2) :
    Kept serve object p fun read ended stage s => P read ended stage s ∧ Q s where
  answer := fun ha h => ⟨k.answer ha h.1, hQ _ _ h.2⟩
  opening := fun h => ⟨k.opening h.1, h.2⟩
  gathering := fun h => ⟨k.gathering h.1, h.2⟩
  openingEnd := fun h => ⟨k.openingEnd h.1, h.2⟩
  gatheringEnd := fun h => ⟨k.gatheringEnd h.1, h.2⟩
  rests := fun h => k.rests h.1

theorem feed (k : Kept serve object p P) {read : ByteArray} {stage : Stage} {s : σ}
    (chunk : ByteArray) (h : P read false stage s)
    (hc : (Upload.mk object p stage).needsChunk = true) :
    ∃ after, Upload.feed ⟨object, p, stage⟩ (some chunk) = ⟨object, p, after⟩ ∧
      P (read ++ chunk) false after s := by
  rcases needsChunk_eq_true hc with ⟨held, rfl⟩ | ⟨id, sent, held, rfl⟩
  · exact ⟨_, feed_opening .., k.opening h⟩
  · exact ⟨_, feed_gathering .., k.gathering h⟩

theorem finish (k : Kept serve object p P) {read : ByteArray} {stage : Stage} {s : σ}
    (h : P read false stage s) (hc : (Upload.mk object p stage).needsChunk = true) :
    ∃ after, Upload.feed ⟨object, p, stage⟩ none = ⟨object, p, after⟩ ∧ P read true after s := by
  rcases needsChunk_eq_true hc with ⟨held, rfl⟩ | ⟨id, sent, held, rfl⟩
  · exact ⟨_, feed_opening .., k.openingEnd h⟩
  · exact ⟨_, feed_gathering .., k.gatheringEnd h⟩

theorem settle (k : Kept serve object p P) {read : ByteArray} {ended : Bool} {stage : Stage} {s : σ}
    (h : P read ended stage s) :
    ∃ last t, Upload.settle serve ⟨object, p, stage⟩ s = (⟨object, p, last⟩, t) ∧
      P read ended last t ∧ IsResting ⟨object, p, last⟩ :=
  settle_keeps (fun ha h => k.answer ha h) stage s h

/-- A run ends with all of the body read, or with a part of it if the upload was over before. -/
theorem run (k : Kept serve object p P) (chunks : List ByteArray) {read : ByteArray}
    {stage : Stage} {s : σ} (h : P read false stage s)
    (hr : IsResting ⟨object, p, stage⟩) :
    ∃ last rest ended outcome t,
      Upload.run serve .complete chunks ⟨object, p, stage⟩ s = (outcome, t) ∧
      last ++ Bytes.join rest = read ++ Bytes.join chunks ∧ (ended = true → rest = []) ∧
      P last ended (.finished outcome) t := by
  -- Between two chunks the upload rests, and `P` tells what it has made of those before.
  induction chunks generalizing read stage s with
  | nil =>
    rcases hr with hc | ⟨outcome, rfl⟩
    · obtain ⟨after, hf, ha⟩ := k.finish h hc
      obtain ⟨last, t, hs, hl, hn | ⟨outcome, rfl⟩⟩ := k.settle ha
      · rw [k.rests hl] at hn
        cases hn
      · refine ⟨read, [], true, outcome, t, ?_, rfl, fun _ => rfl, hl⟩
        simp only [Upload.run, hf, hs]
        rfl
    · refine ⟨read, [], false, outcome, s, ?_, rfl, fun h => (by cases h), h⟩
      rw [Upload.run]
      simp only [feed_of_rests (u := ⟨object, p, .finished outcome⟩) rfl, settle_finished]
      rfl
  | cons chunk chunks ih =>
    rcases hr with hc | ⟨outcome, rfl⟩
    · obtain ⟨after, hf, ha⟩ := k.feed chunk h hc
      obtain ⟨stage', t, hs, hl, hrest⟩ := k.settle ha
      obtain ⟨last, rest, ended, outcome, t', hrun, hjoin, hend, hP⟩ := ih hl hrest
      refine ⟨last, rest, ended, outcome, t', ?_, ?_, hend, hP⟩
      · rw [Upload.run, if_pos hc, hf, hs]
        exact hrun
      · rw [hjoin, Bytes.join_cons, ByteArray.append_assoc]
    · exact ⟨read, chunk :: chunks, false, outcome, s, rfl, rfl, fun h => (by cases h), h⟩

theorem store (k : Kept serve object p P) (chunks : List ByteArray) {s : σ}
    (h : P ByteArray.empty false (.opening Held.start) s) :
    ∃ last rest ended outcome t,
      Upload.store serve object p .complete chunks s = (outcome, t) ∧
      last ++ Bytes.join rest = Bytes.join chunks ∧ (ended = true → rest = []) ∧
      P last ended (.finished outcome) t := by
  obtain ⟨last, rest, ended, outcome, t, hrun, hjoin, hend, hP⟩ := k.run chunks h (Or.inl rfl)
  exact ⟨last, rest, ended, outcome, t, hrun, by simpa using hjoin, hend, hP⟩

end Kept

end BlobStore.Upload
