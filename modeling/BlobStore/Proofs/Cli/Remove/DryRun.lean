import BlobStore.Proofs.Cli.Remove.Attempts
import Mathlib.Tactic.Tauto

/-!
# What a dry run foretells

A dry run does not look at what is stored: it tells what would be removed if every object that is
named were there, and were named once. The run itself asks for each object first.
-/

namespace BlobStore.Cli.Remove

/-- The object that a path names, or the status with which the path fails. -/
def aim (config : ConfigFile) (path : String) : Except ExitStatus Address :=
  match Target.parse path with
  | .error e => .error e.exitStatus
  | .ok target =>
    if target.key.isEmpty then .error .usage
    else
      match locate config target with
      | .error e => .error e.exitStatus
      | .ok location => .ok ⟨location.bucket, target.key⟩

/-- The objects that are named by paths, in order. -/
def aims (config : ConfigFile) (paths : List String) : List Address :=
  paths.filterMap fun path => (aim config path).toOption

/-- The report when one more path has been looked at in a dry run. -/
def foretell (config : ConfigFile) (r : Report) (path : String) : Report :=
  match aim config path with
  | .error status => r.fail path status
  | .ok a => r.succeed a.key

/-- The report, and what is still stored, when one more path has been carried out. -/
def carryOut (config : ConfigFile) (x : Report × (Address → Bool)) (path : String) :
    Report × (Address → Bool) :=
  match aim config path with
  | .error status => (x.1.fail path status, x.2)
  | .ok a =>
    (if x.2 a then x.1.succeed a.key else x.1.fail a.key .notFound, fun other => x.2 other && other ≠ a)

/-- What is removed of the objects that are named, where each can be removed once. -/
def removable (stored : Address → Bool) : List Address → List Address
  | [] => []
  | a :: rest =>
    let more := removable (fun other => stored other && other ≠ a) rest
    if stored a then a :: more else more

private theorem removable_sublist (stored : Address → Bool) (named : List Address) :
    (removable stored named).Sublist named := by
  induction named generalizing stored with
  | nil => exact .slnil
  | cons a rest ih =>
    rw [removable]
    split
    · exact (ih _).cons_cons a
    · exact (ih _).cons a

private theorem removable_cons_eq_iff {stored : Address → Bool} {a : Address}
    {rest : List Address} :
    removable stored (a :: rest) = a :: rest ↔
      stored a = true ∧ removable (fun other => stored other && other ≠ a) rest = rest := by
  rw [removable]
  split
  · rename_i ha
    rw [List.cons_inj_right, and_iff_right ha]
  · rename_i ha
    refine iff_of_false ?_ fun h => ha h.1
    intro heq
    have hle := (removable_sublist (fun other => stored other && other ≠ a) rest).length_le
    rw [heq, List.length_cons] at hle
    exact absurd hle (Nat.not_succ_le_self _)

/-- All that is named is removed if it is there and is named once. -/
theorem removable_eq_self_iff (stored : Address → Bool) (named : List Address) :
    removable stored named = named ↔ named.Nodup ∧ ∀ a ∈ named, stored a = true := by
  induction named generalizing stored with
  | nil => simp [removable]
  | cons a rest ih =>
    have hrest : (∀ b ∈ rest, (stored b && b ≠ a) = true) ↔
        a ∉ rest ∧ ∀ b ∈ rest, stored b = true := by
      simp only [Bool.and_eq_true, decide_eq_true_eq, forall₂_and]
      exact and_comm.trans (and_congr_left' ⟨fun h ha => h a ha rfl, fun h b hb he => h (he ▸ hb)⟩)
    rw [removable_cons_eq_iff, ih, hrest, List.nodup_cons, List.forall_mem_cons]
    tauto

section Reports

variable {config : ConfigFile} {path : String} {status : ExitStatus} {a : Address}

private theorem aims_cons_of_error (h : aim config path = .error status) (paths : List String) :
    aims config (path :: paths) = aims config paths :=
  List.filterMap_cons_none (by rw [h]; rfl)

private theorem aims_cons_of_ok (h : aim config path = .ok a) (paths : List String) :
    aims config (path :: paths) = a :: aims config paths :=
  List.filterMap_cons_some (by rw [h]; rfl)

variable (config) (paths : List String)

private theorem deleted_foretell (r : Report) :
    (paths.foldl (foretell config) r).deleted = r.deleted ++ (aims config paths).map (·.key) := by
  induction paths generalizing r with
  | nil => exact (List.append_nil _).symm
  | cons path rest ih =>
    rw [List.foldl_cons, ih, foretell]
    cases haim : aim config path with
    | error status =>
      rw [aims_cons_of_error haim]
      rfl
    | ok a =>
      rw [aims_cons_of_ok haim, List.map_cons]
      exact List.append_assoc _ _ _

private theorem deleted_carryOut (r : Report) (stored : Address → Bool) :
    (paths.foldl (carryOut config) (r, stored)).1.deleted =
      r.deleted ++ (removable stored (aims config paths)).map (·.key) := by
  induction paths generalizing r stored with
  | nil => exact (List.append_nil _).symm
  | cons path rest ih =>
    rw [List.foldl_cons, ih, carryOut]
    cases haim : aim config path with
    | error status =>
      rw [aims_cons_of_error haim]
      rfl
    | ok a =>
      rw [aims_cons_of_ok haim, removable]
      dsimp only
      split
      · exact List.append_assoc _ _ _
      · rfl

private theorem stored_carryOut (r : Report) (stored : Address → Bool) (a : Address) :
    (paths.foldl (carryOut config) (r, stored)).2 a = (stored a && a ∉ aims config paths) := by
  induction paths generalizing r stored with
  | nil => exact (Bool.and_true _).symm
  | cons path rest ih =>
    rw [List.foldl_cons, ih, carryOut]
    cases haim : aim config path with
    | error status => rw [aims_cons_of_error haim]
    | ok b =>
      rw [aims_cons_of_ok haim]
      simp only [List.mem_cons, not_or, Bool.decide_and, Bool.and_assoc, ne_eq]

/-- The run has removed all that is named, so it has gone as a dry run. -/
theorem carryOut_eq_foretell (r : Report) {stored : Address → Bool}
    (h : removable stored (aims config paths) = aims config paths) :
    (paths.foldl (carryOut config) (r, stored)).1 = paths.foldl (foretell config) r := by
  induction paths generalizing r stored with
  | nil => rfl
  | cons path rest ih =>
    rw [List.foldl_cons, List.foldl_cons, carryOut, foretell]
    cases haim : aim config path with
    | error status =>
      rw [aims_cons_of_error haim] at h
      exact ih _ h
    | ok a =>
      rw [aims_cons_of_ok haim, removable_cons_eq_iff] at h
      dsimp only
      rw [if_pos h.1]
      exact ih _ h.2

private theorem failed_sublist {r r' : Report} (stored : Address → Bool)
    (h : r.failed.Sublist r'.failed) :
    (paths.foldl (foretell config) r).failed.Sublist
      (paths.foldl (carryOut config) (r', stored)).1.failed := by
  induction paths generalizing r r' stored with
  | nil => exact h
  | cons path rest ih =>
    rw [List.foldl_cons, List.foldl_cons, carryOut, foretell]
    cases haim : aim config path with
    | error status => exact ih _ (h.append (List.Sublist.refl _))
    | ok a =>
      dsimp only
      split
      · exact ih _ h
      · exact ih _ (h.trans (List.sublist_append_left _ _))

end Reports

variable {host : Host} {style : Style}

/-- Whether there is an object at an address. -/
def stored (d : Desk (Fleet (Noted Memory))) (a : Address) : Bool :=
  ((recordOf d.services a.bucket).state.objects.get? a.key).isSome

private theorem stored_congr {d d' : Desk (Fleet (Noted Memory))}
    (h : ∀ name, recordOf d'.services name = recordOf d.services name) : stored d' = stored d := by
  funext a
  rw [stored, stored, h]

private theorem serve_of_memory {name : String} {r : Request} {answer : Answer r} {m : Memory}
    {d : Desk (Fleet (Noted Memory))}
    (h : Memory.serve r (recordOf d.services name).state = (answer, m)) :
    (deskBucket (bucketOf .none name)).serve r d = (answer, extended d name ⟨m, [⟨r, answer⟩]⟩) := by
  rw [deskBucket_serve, Service.noted_none h]
  rfl

private theorem stored_extended {d : Desk (Fleet (Noted Memory))} {a : Address} {m : Memory}
    {events : List Event}
    (h : ∀ key, (m.objects.get? key).isSome = (stored d ⟨a.bucket, key⟩ && key ≠ a.key)) :
    stored (extended d a.bucket ⟨m, events⟩) = fun other => stored d other && other ≠ a := by
  funext ⟨bucket, key⟩
  rw [stored, recordOf_extended]
  by_cases hbucket : bucket = a.bucket
  · subst hbucket
    have hkey : (Address.mk a.bucket key = a) ↔ key = a.key := by
      obtain ⟨bucket, key'⟩ := a
      simp
    rw [if_pos rfl, h, decide_eq_decide.mpr (not_congr hkey)]
  · have hne : Address.mk bucket key ≠ a := fun heq => hbucket (congrArg Address.bucket heq)
    rw [if_neg hbucket, decide_eq_true hne, Bool.and_true, stored]

private theorem delete_stored (a : Address) (d : Desk (Fleet (Noted Memory))) :
    ∃ d', (deskBucket (bucketOf .none a.bucket)).delete a.key d =
        (if stored d a then .ok () else .error (.ofFault Memory.notFound), d') ∧
      d'.config = d.config ∧ stored d' = fun other => stored d other && other ≠ a := by
  let m := (recordOf d.services a.bucket).state
  have hhead : Memory.serve (.head ⟨a.bucket, a.key⟩) m = (m.head a.key, m) := rfl
  cases hobject : m.objects.get? a.key with
  | none =>
    have hgone : stored d a = false := congrArg Option.isSome hobject
    have hmissed : m.head a.key = .error Memory.notFound := by rw [Memory.head, hobject]
    rw [hmissed] at hhead
    rw [Bucket.delete_of_missed (serve_of_memory hhead), hgone]
    refine ⟨_, rfl, rfl, stored_extended fun key => ?_⟩
    by_cases hkey : key = a.key
    · subst hkey
      rw [hobject, hgone]
      rfl
    · rw [decide_eq_true hkey, Bool.and_true, stored]
  | some o =>
    have hthere : stored d a = true := congrArg Option.isSome hobject
    obtain ⟨head, hfound⟩ : ∃ head, m.head a.key = .ok head := by
      rw [Memory.head, hobject]
      exact ⟨_, rfl⟩
    rw [hfound] at hhead
    have hasked := serve_of_memory hhead
    have herase : Memory.serve (.delete ⟨a.bucket, a.key⟩)
        (recordOf (extended d a.bucket ⟨m, [⟨.head ⟨a.bucket, a.key⟩, .ok head⟩]⟩).services
          a.bucket).state = (.ok (), { m with objects := m.objects.erase a.key }) := by
      rw [recordOf_extended, if_pos rfl]
      rfl
    rw [Bucket.delete_of_found hasked, hthere]
    refine ⟨_, Bucket.request_of_granted (serve_of_memory herase), rfl, ?_⟩
    rw [extended_extended]
    refine stored_extended fun key => ?_
    rw [KeyMap.get?_erase]
    by_cases hkey : key = a.key
    · rw [if_pos hkey, decide_eq_false (not_not.mpr hkey), Bool.and_false]
      rfl
    · rw [if_neg hkey, decide_eq_true hkey, Bool.and_true, stored]

private theorem removePath_cases (plan : Mishaps) (dryRun : Bool) (paths : List String)
    (path : String) (r : Report) (d : Desk (Fleet (Noted Memory))) :
    let s := setting plan host
    (∃ status terminal, aim d.config path = .error status ∧
      removePath s style ⟨paths, false, dryRun⟩ r path d =
        (r.fail path status, { d with terminal })) ∨
    ∃ a, aim d.config path = .ok a ∧
      removePath s style ⟨paths, false, dryRun⟩ r path d =
        removeOne style dryRun (deskBucket (bucketOf plan a.bucket)) r a.key
          (extended d a.bucket ⟨(recordOf d.services a.bucket).state, []⟩) := by
  intro s
  unfold aim removePath
  cases Target.parse path with
  | error e => exact .inl ⟨_, _, rfl, rfl⟩
  | ok target =>
    dsimp only
    cases htarget : target.key.isEmpty with
    | true => exact .inl ⟨_, _, rfl, rfl⟩
    | false =>
      cases hlocate : locate d.config target with
      | error e =>
        have hopen : openBucket s target d = (.error e, d) := by rw [openBucket, hlocate]
        rw [hopen]
        exact .inl ⟨_, _, rfl, rfl⟩
      | ok location =>
        rw [openBucket_eq plan host hlocate]
        exact .inr ⟨_, rfl, rfl⟩

private theorem removePath_dry (paths : List String) (path : String) (r : Report)
    (d : Desk (Fleet (Noted Memory))) :
    ∃ d', removePath (setting .none host) style ⟨paths, false, true⟩ r path d =
        (foretell d.config r path, d') ∧ d'.config = d.config ∧
      ∀ name, recordOf d'.services name = recordOf d.services name := by
  unfold foretell
  rcases removePath_cases .none true paths path r d with ⟨status, terminal, haim, hpath⟩ | ⟨a, haim, hpath⟩
  · rw [hpath, haim]
    exact ⟨_, rfl, rfl, fun _ => rfl⟩
  · rw [hpath, haim]
    exact ⟨_, rfl, rfl, recordOf_opened a.bucket⟩

private theorem removePath_real (paths : List String) (path : String) (r : Report)
    (d : Desk (Fleet (Noted Memory))) :
    ∃ d', removePath (setting .none host) style ⟨paths, false, false⟩ r path d =
        ((carryOut d.config (r, stored d) path).1, d') ∧ d'.config = d.config ∧
      stored d' = (carryOut d.config (r, stored d) path).2 := by
  unfold carryOut
  rcases removePath_cases .none false paths path r d with ⟨status, terminal, haim, hpath⟩ | ⟨a, haim, hpath⟩
  · rw [hpath, haim]
    exact ⟨_, rfl, rfl, rfl⟩
  · obtain ⟨d', hdelete, hconfig, hstored⟩ := delete_stored a
      (extended d a.bucket ⟨(recordOf d.services a.bucket).state, []⟩)
    rw [stored_congr (recordOf_opened a.bucket)] at hdelete hstored
    rw [hpath, haim, removeOne, if_neg Bool.false_ne_true]
    rcases Bool.eq_false_or_eq_true (stored d a) with hthere | hthere
    · rw [hthere] at hdelete
      rw [hdelete]
      exact ⟨_, Prod.ext (if_pos hthere).symm rfl, hconfig, hstored⟩
    · rw [hthere] at hdelete
      rw [hdelete]
      exact ⟨_, Prod.ext (if_neg (ne_true_of_eq_false hthere)).symm rfl, hconfig, hstored⟩

/-- A dry run goes as it is foretold, and leaves all buckets as they are. -/
theorem foldlM_dry (all paths : List String) (r : Report) (d : Desk (Fleet (Noted Memory))) :
    ∃ d', paths.foldlM (removePath (setting .none host) style ⟨all, false, true⟩) r d =
        (paths.foldl (foretell d.config) r, d') ∧
      ∀ name, recordOf d'.services name = recordOf d.services name := by
  induction paths generalizing r d with
  | nil => exact ⟨d, rfl, fun _ => rfl⟩
  | cons path rest ih =>
    obtain ⟨d₁, hpath, hconfig, hrecord⟩ := removePath_dry all path r d
    obtain ⟨d₂, hrest, hrecord'⟩ := ih (foretell d.config r path) d₁
    rw [hconfig] at hrest
    refine ⟨d₂, ?_, fun name => (hrecord' name).trans (hrecord name)⟩
    rw [foldlM_cons_apply, hpath]
    exact hrest

private theorem foldlM_real (all paths : List String) (r : Report)
    (d : Desk (Fleet (Noted Memory))) :
    ∃ d', paths.foldlM (removePath (setting .none host) style ⟨all, false, false⟩) r d =
        ((paths.foldl (carryOut d.config) (r, stored d)).1, d') ∧
      stored d' = (paths.foldl (carryOut d.config) (r, stored d)).2 := by
  induction paths generalizing r d with
  | nil => exact ⟨d, rfl, rfl⟩
  | cons path rest ih =>
    obtain ⟨d₁, hpath, hconfig, hstored⟩ := removePath_real all path r d
    obtain ⟨d₂, hrest, hstored'⟩ := ih (carryOut d.config (r, stored d) path).1 d₁
    rw [hconfig, hstored] at hrest hstored'
    refine ⟨d₂, ?_, hstored'⟩
    rw [foldlM_cons_apply, hpath]
    exact hrest

/-- A dry run lists all objects that are named as deleted, and asks for none of them. The run itself
deletes those that are there, each once, so the two reports, their lists and their statuses, are the
same just if every object that is named is there and is named once. -/
theorem execute_foretold (host : Host) (style : Style) (paths : List String) (d : Desk (Fleet (Noted Memory))) :
    let s := setting .none host
    let out (dryRun : Bool) := (execute s style ⟨paths, false, dryRun⟩).run d
    let swept (dryRun : Bool) := removeAll s style ⟨paths, false, dryRun⟩ d
    let named := aims d.config paths
    (∀ dryRun, (out dryRun).1 = .exited (swept dryRun).1.status ∧ (style.json = true →
      (out dryRun).2.terminal = (swept dryRun).2.terminal.document ((swept dryRun).1.json dryRun))) ∧
    (∀ name, recordOf (out true).2.services name = recordOf d.services name) ∧
    (∀ a, stored (out false).2 a = (stored d a && a ∉ named)) ∧
    (swept true).1.deleted = named.map (·.key) ∧
    (swept false).1.deleted = (removable (stored d) named).map (·.key) ∧
    (swept true).1.failed.Sublist (swept false).1.failed ∧
    ((swept false).1 = (swept true).1 ↔ named.Nodup ∧ ∀ a ∈ named, stored d a = true) := by
  intro s out swept named
  obtain ⟨d₁, hdry, hrecord⟩ := @foldlM_dry host style paths paths .start d
  obtain ⟨d₂, hreal, hstored⟩ := @foldlM_real host style paths paths .start d
  have hdry' : swept true = (paths.foldl (foretell d.config) .start, d₁) := hdry
  have hreal' : swept false = ((paths.foldl (carryOut d.config) (.start, stored d)).1, d₂) := hreal
  have hdeleted := deleted_foretell d.config paths .start
  have hdeleted' := deleted_carryOut d.config paths .start (stored d)
  refine ⟨fun dryRun => ⟨congrArg Prod.fst (run_execute s style _ d), terminal_execute s _ d⟩,
    fun name => ?_, fun a => ?_, ?_, ?_, ?_, ?_⟩
  · rw [services_execute]
    exact (congrArg (fun x => recordOf x.2.services name) hdry').trans (hrecord name)
  · have hout : stored (out false).2 = stored d₂ :=
      stored_congr fun name => by
        rw [services_execute]
        exact congrArg (fun x => recordOf x.2.services name) hreal'
    rw [hout, hstored]
    exact stored_carryOut d.config paths .start (stored d) a
  · rw [hdry']
    exact hdeleted
  · rw [hreal']
    exact hdeleted'
  · rw [hdry', hreal']
    exact failed_sublist d.config paths (stored d) (List.Sublist.refl [])
  · rw [hdry', hreal', ← removable_eq_self_iff]
    constructor
    · intro heq
      have hkeys := hdeleted'.symm.trans ((congrArg Report.deleted heq).trans hdeleted)
      refine (removable_sublist _ _).eq_of_length ?_
      have hlength := congrArg List.length (List.append_cancel_left hkeys)
      rw [List.length_map, List.length_map] at hlength
      exact hlength
    · exact carryOut_eq_foretell d.config paths .start

/-- A dry run tells that an object would be removed that is not there. -/
theorem execute_foretold_missing :
    let s := setting .none .bare
    let d : Desk (Fleet (Noted Memory)) := ⟨.absent, ∅, .blank⟩
    let dry := ((execute s .plain ⟨["s3://b/k"], false, true⟩).run d).1
    let real := ((execute s .plain ⟨["s3://b/k"], false, false⟩).run d).1
    dry = .exited .success ∧ real = .exited .notFound := by
  decide +kernel

end BlobStore.Cli.Remove
