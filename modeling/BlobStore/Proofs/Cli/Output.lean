import BlobStore.Cli.Run
import BlobStore.Proofs.Cli.Mute
import BlobStore.Proofs.Cli.Opening
import BlobStore.Proofs.Json.Grammar
import BlobStore.Proofs.Listing.Sweep

/-!
# What is written for programs

When JSON is on a command writes one document, as the last thing it does, or nothing. Removing is
the one command that may write before that.
-/

namespace BlobStore.Cli

variable {σ α β : Type}

/-! ## Steps that write -/

/-- What is written to the standard output has a property. -/
def Writes (x : Step σ α) (Q : ByteArray → Prop) : Prop :=
  ∀ d, ∃ bytes, (x d).2.terminal.out = d.terminal.out ++ bytes ∧ Q bytes

/-- Nothing, or one document and the end of its line. -/
def IsJsonOutput (bytes : ByteArray) : Prop :=
  bytes = ByteArray.empty ∨ ∃ text, Json.IsDocument text.toList ∧ bytes = (text ++ "\n").toUTF8

private theorem isJsonOutput_empty : IsJsonOutput ByteArray.empty := .inl rfl

private theorem isJsonOutput_text (v : Json.Value) : IsJsonOutput (v.text ++ "\n").toUTF8 :=
  .inr ⟨v.text, Json.isDocument_text v, rfl⟩

private theorem head_of_isJsonOutput {text : String} (h : IsJsonOutput text.toUTF8) {c : Char}
    {chars : List Char} (htext : text.toList = c :: chars) :
    c ∈ [' ', '\t', '\n', '\r', 'n', 't', 'f', '"', '[', '\x7b', '-'] ∨ c.isDigit = true := by
  rcases h with hempty | ⟨document, hdocument, hbytes⟩
  · obtain rfl : text = "" := String.toByteArray_inj.mp hempty
    cases htext
  · obtain rfl : text = document ++ "\n" := String.toByteArray_inj.mp hbytes
    rw [String.toList_append] at htext
    cases hchars : document.toList with
    | nil =>
      rw [hchars] at htext
      obtain ⟨rfl, -⟩ := List.cons.inj htext
      exact .inl (by decide)
    | cons d rest =>
      rw [hchars] at htext hdocument
      obtain ⟨rfl, -⟩ := List.cons.inj htext
      exact Json.head_of_isDocument hdocument

theorem Writes.imp {x : Step σ α} {Q Q' : ByteArray → Prop} (h : Writes x Q)
    (himp : ∀ bytes, Q bytes → Q' bytes) : Writes x Q' := by
  intro d
  obtain ⟨bytes, hout, hq⟩ := h d
  exact ⟨bytes, hout, himp bytes hq⟩

theorem desk_run (x : Step σ ExitStatus) (d : Desk σ) : (x.run d).2 = (x d).2 := by
  unfold Step.run
  rcases x d with ⟨_ | _, d'⟩ <;> rfl

theorem Mute.writes {x : Step σ α} {P : α → Prop} {f : α → Step σ β} {Q : ByteArray → Prop}
    (h : Mute x P) (hnone : Q ByteArray.empty) (hf : ∀ a, P a → Writes (f a) Q) :
    Writes (x >>= f) Q := by
  intro d
  obtain ⟨hout, hgives⟩ := h d
  cases hx : x d with
  | mk result d' =>
    rw [hx] at hout hgives
    cases result with
    | error e =>
      rw [bind_of_error hx]
      exact ⟨ByteArray.empty, hout.trans ByteArray.append_empty.symm, hnone⟩
    | ok a =>
      rw [bind_of_ok hx]
      obtain ⟨bytes, hbytes, hq⟩ := hf a (hgives a rfl) d'
      exact ⟨bytes, hbytes.trans (congrArg (· ++ bytes) hout), hq⟩

private theorem writes_document {f : Terminal → Terminal} {v : Json.Value}
    (hf : ∀ t, f t = t.document v) (status : ExitStatus) :
    Writes (do Step.display f; return status : Step σ ExitStatus) IsJsonOutput :=
  fun d => ⟨(v.text ++ "\n").toUTF8, congrArg Terminal.out (hf d.terminal), isJsonOutput_text v⟩

section Commands

variable {style : Style} (hjson : style.json = true) (s : Setting σ)

include hjson

omit s in
private theorem writes_conclude_listing (build : Build) (entries : List ListEntry)
    (token : Option String)
    (summarize : Bool) :
    Writes (Browse.conclude style build entries token summarize : Step σ ExitStatus) IsJsonOutput := by
  unfold Browse.conclude
  split
  · exact writes_document (fun t => if_pos hjson) .success
  · cases Browse.Summary.of? build entries with
    | some summary => exact writes_document (fun t => if_pos hjson) .success
    | none =>
      intro d
      refine ⟨ByteArray.empty, ?_, isJsonOutput_empty⟩
      rw [ByteArray.append_empty]
      exact congrArg Terminal.out (if_pos hjson)

private theorem writes_browse (defaults : Defaults) (a : ListArguments) :
    Writes (Browse.execute s style defaults a) IsJsonOutput := by
  unfold Browse.execute
  refine (mute_accept style _ _).writes isJsonOutput_empty fun token _ => ?_
  refine (mute_resolve s style a.path).writes isJsonOutput_empty fun r hr => ?_
  obtain ⟨target, b, rfl⟩ := hr
  refine (mute_attempt style _ (mute_entries b _ _ _)).writes isJsonOutput_empty fun listed _ => ?_
  exact writes_conclude_listing hjson s.build _ _ _

private theorem writes_stat (path : String) : Writes (Stat.execute s style path) IsJsonOutput := by
  unfold Stat.execute
  refine (mute_resolveObject s style path).writes isJsonOutput_empty fun r hr => ?_
  obtain ⟨target, b, rfl⟩ := hr
  refine (mute_attempt style _ (mute_attributes b _)).writes isJsonOutput_empty fun attributes _ => ?_
  exact writes_document (fun t => if_pos hjson) .success

private theorem writes_sign (path : String) (expiry : Duration) :
    Writes (Sign.execute s style path expiry) IsJsonOutput := by
  unfold Sign.execute
  refine (mute_accept style _ _).writes isJsonOutput_empty fun _ _ => ?_
  refine (mute_resolveObject s style path).writes isJsonOutput_empty fun r hr => ?_
  obtain ⟨target, b, rfl⟩ := hr
  refine (mute_attempt style _ (mute_signedUrl b _ _)).writes isJsonOutput_empty fun url _ => ?_
  exact writes_document (fun t => if_pos hjson) .success

omit s in
private theorem writes_conclude_upload (a : PutArguments) (contentType : Option String)
    (result : Except Put.Stop Nat) :
    Writes (Put.conclude style a contentType result : Step σ ExitStatus) IsJsonOutput := by
  rcases result with (e | _) | size
  · exact fun d => ⟨ByteArray.empty, ((mute_fail style _ e (fun _ => False) d).1).trans
      ByteArray.append_empty.symm, isJsonOutput_empty⟩
  · exact fun d => ⟨ByteArray.empty, (out_error style _ d.terminal).trans
      ByteArray.append_empty.symm, isJsonOutput_empty⟩
  · exact writes_document (fun t => if_pos hjson) .success

private theorem writes_put (defaults : Defaults) (a : PutArguments) :
    Writes (Put.execute s style defaults a) IsJsonOutput := by
  unfold Put.execute
  refine (mute_resolveObject s style a.target).writes isJsonOutput_empty fun r hr => ?_
  obtain ⟨target, b, rfl⟩ := hr
  refine (mute_source s style a).writes isJsonOutput_empty fun source _ => ?_
  refine (mute_accept style _ _).writes isJsonOutput_empty fun writer _ => ?_
  refine (mute_transfer b _ _ _).writes isJsonOutput_empty fun result _ => ?_
  exact writes_conclude_upload hjson a _ result

private theorem writes_define (a : Alias) :
    Writes (Aliases.define style a : Step σ ExitStatus) IsJsonOutput := by
  unfold Aliases.define
  refine (mute_accept style _ _).writes isJsonOutput_empty fun _ _ => ?_
  have hchange := mute_attempt (σ := σ) style "Failed to save alias" (mute_onConfig (ConfigFile.defineAlias a))
  refine hchange.writes isJsonOutput_empty fun _ _ => ?_
  exact writes_document (fun t => if_pos hjson) .success

private theorem writes_removeAlias (name : String) :
    Writes (Aliases.remove style name : Step σ ExitStatus) IsJsonOutput := by
  unfold Aliases.remove
  have hchange := mute_attempt (σ := σ) style "Failed to remove alias"
    (mute_onConfig (ConfigFile.removeAlias name))
  refine hchange.writes isJsonOutput_empty fun _ _ => ?_
  exact writes_document (fun t => if_pos hjson) .success

private theorem writes_listAliases :
    Writes (Aliases.list style : Step σ ExitStatus) IsJsonOutput := by
  unfold Aliases.list
  refine Mute.writes (P := fun _ => True) (fun d => ⟨rfl, fun _ _ => trivial⟩) isJsonOutput_empty
    fun d _ => ?_
  refine (mute_accept style _ _).writes isJsonOutput_empty fun aliases _ => ?_
  rw [if_pos hjson]
  exact writes_document (fun t => rfl) .success

end Commands

/-! ## Removing -/

namespace Remove

/-- The lines about objects that would be removed. -/
def announced (keys : List String) : ByteArray :=
  (String.join (keys.map fun key => s!"Would remove: {key}\n")).toUTF8

/-- Whether the command announces what it would remove. -/
def announces (style : Style) (dryRun : Bool) : Bool := dryRun && !style.quiet

/-- What is written before the report, which is what is announced and nothing else. -/
def spoken (style : Style) (dryRun : Bool) (keys : List String) : ByteArray :=
  if announces style dryRun then announced keys else ByteArray.empty

private theorem announced_append (keys more : List String) :
    announced (keys ++ more) = announced keys ++ announced more := by
  rw [announced, List.map_append, String.join_append]
  exact String.toByteArray_append

private theorem announced_singleton (key : String) :
    announced [key] = ("Would remove: " ++ key ++ "\n").toUTF8 := by
  have hline : s!"Would remove: {key}\n" = "Would remove: " ++ key ++ "\n" := rfl
  rw [announced, List.map_singleton, String.join_cons, String.join_nil, String.append_empty, hline]

private theorem spoken_append (style : Style) (dryRun : Bool) (keys more : List String) :
    spoken style dryRun (keys ++ more) = spoken style dryRun keys ++ spoken style dryRun more := by
  unfold spoken
  split
  · exact announced_append keys more
  · exact ByteArray.empty_append.symm

/-- A run of the command has written about what it has added to the report. -/
def Tells (style : Style) (dryRun : Bool) (x y : Report × Desk σ) : Prop :=
  ∃ more, y.1.deleted = x.1.deleted ++ more ∧
    y.2.terminal.out = x.2.terminal.out ++ spoken style dryRun more

private theorem Tells.of_silent {style : Style} {dryRun : Bool} {x y : Report × Desk σ}
    (hdeleted : y.1.deleted = x.1.deleted) (hout : y.2.terminal.out = x.2.terminal.out) :
    Tells style dryRun x y := by
  have hnone : spoken style dryRun [] = ByteArray.empty := by
    unfold spoken
    split <;> rfl
  refine ⟨[], ?_, ?_⟩
  · rw [hdeleted, List.append_nil]
  · rw [hout, hnone, ByteArray.append_empty]

theorem Tells.trans {style : Style} {dryRun : Bool} {x y z : Report × Desk σ}
    (hxy : Tells style dryRun x y) (hyz : Tells style dryRun y z) : Tells style dryRun x z := by
  obtain ⟨more, hdeleted, hout⟩ := hxy
  obtain ⟨more', hdeleted', hout'⟩ := hyz
  refine ⟨more ++ more', ?_, ?_⟩
  · rw [hdeleted', hdeleted, List.append_assoc]
  · rw [hout', hout, spoken_append, ByteArray.append_assoc]

section Tells

variable {style : Style} (hjson : style.json = true) (dryRun : Bool) (b : Bucket σ)

include hjson

private theorem tells_removeOne (r : Report) (key : String) (d : Desk σ) :
    Tells style dryRun (r, d) (removeOne style dryRun (deskBucket b) r key d) := by
  cases dryRun with
  | true =>
    refine ⟨[key], rfl, ?_⟩
    rw [removeOne, if_pos rfl]
    unfold Style.line spoken announces
    cases style.quiet with
    | true => exact ByteArray.append_empty.symm
    | false =>
      rw [announced_singleton]
      rfl
  | false =>
    have hdelete := (mute_delete b key d).1
    rw [removeOne, if_neg Bool.false_ne_true]
    generalize (deskBucket b).delete key d = reached at hdelete ⊢
    obtain ⟨e | _, d'⟩ := reached
    · exact .of_silent rfl ((out_error style _ _).trans hdelete)
    · have hsuccess : ∀ message t, style.success message t = t := fun message t => by
        rw [Style.success, hjson, Bool.or_true, if_pos rfl]
      refine ⟨[key], rfl, ?_⟩
      dsimp only
      rw [hsuccess, hdelete]
      exact ByteArray.append_empty.symm

private theorem tells_removeBelow (pageLimit : Nat) (target : Target) (r : Report) (d : Desk σ) :
    Tells style dryRun (r, d) (removeBelow style dryRun (deskBucket b) pageLimit target r d) := by
  have hserve : ∀ {query : ListQuery} {answer : Except Fault Listed} {d d' : Desk σ},
      (deskBucket b).serve (.list query) d = (answer, d') → d'.terminal = d.terminal :=
    fun h => (congrArg (·.2.terminal) h).symm
  unfold removeBelow
  have hfollows : (ListCursor.new ⟨target.key, "", 0, none⟩).Follows := ⟨none, rfl⟩
  rcases ListCursor.fold_leads (fun r e => removeOne style dryRun (deskBucket b) r e.key)
      (Tells style dryRun) (fun _ => .of_silent rfl rfl) Tells.trans
      (fun e r d => tells_removeOne hjson dryRun b r e.key d)
      (fun h r => .of_silent rfl (congrArg Terminal.out (hserve h))) pageLimit hfollows r d with
    ⟨r', d', hfold, hsweep⟩ | ⟨query, why, r', d', d'', hfold, hsweep, hstop⟩
  · simp only [hfold]
    exact hsweep
  · simp only [hfold]
    refine hsweep.trans (.of_silent rfl ?_)
    exact (out_error style _ _).trans (congrArg Terminal.out (hserve hstop))

private theorem tells_removePath (s : Setting σ) (a : RemoveArguments) (r : Report)
    (path : String) (d : Desk σ) : Tells style a.dryRun (r, d) (removePath s style a r path d) := by
  unfold removePath
  cases Target.parse path with
  | error e => exact .of_silent rfl (out_error style _ _)
  | ok target =>
    dsimp only
    split
    · exact .of_silent rfl (out_error style _ _)
    · have hopen := mute_openBucket s target d
      generalize openBucket s target d = reached at hopen ⊢
      obtain ⟨e | bucket, d'⟩ := reached
      · exact .of_silent rfl ((out_error style _ _).trans hopen.1)
      · obtain ⟨b, rfl⟩ := hopen.2 bucket rfl
        dsimp only
        refine Tells.trans (y := (r, d')) (.of_silent rfl hopen.1) ?_
        split
        · exact tells_removeBelow hjson a.dryRun b s.pageLimit target r d'
        · exact tells_removeOne hjson a.dryRun b r target.key d'

private theorem tells_removeAll (s : Setting σ) (a : RemoveArguments) (d : Desk σ) :
    Tells style a.dryRun (.start, d) (removeAll s style a d) :=
  foldlM_leads (fun _ => Tells style a.dryRun) (fun _ => .of_silent rfl rfl)
    (fun path r d => tells_removePath hjson s a r path d) Tells.trans a.paths .start d

/-- The announcements come before the report that lists the same keys. -/
def IsReport (style : Style) (dryRun : Bool) (bytes : ByteArray) : Prop :=
  ∃ report : Report, bytes =
    spoken style dryRun report.deleted ++ ((report.json dryRun).text ++ "\n").toUTF8

private theorem writes_execute (s : Setting σ) (a : RemoveArguments) :
    Writes (execute s style a) (IsReport style a.dryRun) := by
  intro d
  obtain ⟨more, hdeleted, hout⟩ := tells_removeAll hjson s a d
  have hdocument : (execute s style a d).2.terminal =
      (removeAll s style a d).2.terminal.document ((removeAll s style a d).1.json a.dryRun) := by
    unfold execute
    simp only [if_pos hjson]
    rfl
  obtain rfl : (removeAll s style a d).1.deleted = more := hdeleted
  refine ⟨_, ?_, (removeAll s style a d).1, rfl⟩
  rw [hdocument, ← ByteArray.append_assoc, ← hout]
  rfl

end Tells

private theorem not_isJsonOutput_announced {keys : List String} (h : keys ≠ []) (rest : String) :
    ¬IsJsonOutput (announced keys ++ rest.toUTF8) := by
  obtain ⟨key, keys, rfl⟩ := List.exists_cons_of_ne_nil h
  have hannounced : announced (key :: keys) ++ rest.toUTF8 =
      (String.join ((key :: keys).map fun key => s!"Would remove: {key}\n") ++ rest).toUTF8 :=
    String.toByteArray_append.symm
  rw [hannounced]
  intro hjson
  -- Whatever a document may begin with, an announcement begins with another letter.
  have hhead := head_of_isJsonOutput (c := 'W') hjson (by
    rw [List.map_cons, String.join_cons]
    simp only [String.toList_append, List.append_assoc]
    rfl)
  exact absurd hhead (by decide)

end Remove

/-! ## Carrying out a command -/

/-- The style that a command is carried out in. -/
def Invocation.styleWith (i : Invocation) (colors : Bool) (config : Config) : Style :=
  styleFor { i.style with noColor := i.style.noColor || !colors } config.defaults

theorem Invocation.json_styleWith (i : Invocation) (colors : Bool) {config : Config}
    (h : i.style.json = true ∨ config.defaults.output = "json") :
    (i.styleWith colors config).json = true := by
  rcases h with h | h <;> simp [styleWith, styleFor, h]

theorem Invocation.run_of_load (s : Setting σ) (colors : Bool) (i : Invocation) {d : Desk σ}
    {config : Config} (hload : d.config.load = .ok config) :
    i.run s colors d =
      (perform s (i.styleWith colors config) config.defaults i.command).run d := by
  have hget : (get : Step σ (Desk σ)) d = (.ok d, d) := rfl
  unfold Invocation.run Step.run
  dsimp only
  rw [bind_of_ok hget]
  rw [hload]
  rfl

theorem Invocation.run_of_unloaded (s : Setting σ) (colors : Bool) (i : Invocation) {d : Desk σ}
    {e : Error} (hload : d.config.load = .error e) :
    i.run s colors d = (withoutConfig e : Step σ ExitStatus).run d := by
  have hget : (get : Step σ (Desk σ)) d = (.ok d, d) := rfl
  unfold Invocation.run Step.run
  dsimp only
  rw [bind_of_ok hget]
  rw [hload]
  rfl

private theorem Invocation.out_of_unloaded (s : Setting σ) (colors : Bool) (i : Invocation)
    {d : Desk σ} {e : Error} (hload : d.config.load = .error e) :
    (i.run s colors d).2.terminal.out = d.terminal.out := by
  rw [run_of_unloaded s colors i hload]
  exact out_error _ _ _

/-- A dry run that is not quiet and finds something announces it, and then reports it. -/
structure Announces (style : Style) (command : Command) (bytes : ByteArray) : Prop where
  reports : ∃ a report, command = .remove a ∧ a.dryRun = true ∧ report.deleted ≠ [] ∧
    bytes = Remove.announced report.deleted ++
      ((Remove.Report.json true report).text ++ "\n").toUTF8
  loud : style.quiet = false

private theorem Announces.not_isJsonOutput {style : Style} {command : Command} {bytes : ByteArray}
    (h : Announces style command bytes) : ¬IsJsonOutput bytes := by
  obtain ⟨a, report, -, -, hdeleted, rfl⟩ := h.reports
  exact Remove.not_isJsonOutput_announced hdeleted _

theorem Remove.IsReport.cases {style : Style} {a : RemoveArguments} {bytes : ByteArray}
    (h : IsReport style a.dryRun bytes) : IsJsonOutput bytes ∨ Announces style (.remove a) bytes := by
  obtain ⟨report, rfl⟩ := h
  by_cases hsilent : spoken style a.dryRun report.deleted = ByteArray.empty
  · rw [hsilent, ByteArray.empty_append]
    exact .inl (isJsonOutput_text _)
  · have hannounces : announces style a.dryRun = true := by
      by_contra hn
      exact hsilent (if_neg hn)
    have hspoken : spoken style a.dryRun report.deleted = announced report.deleted :=
      if_pos hannounces
    simp only [announces, Bool.and_eq_true, Bool.not_eq_true'] at hannounces
    refine .inr ⟨⟨a, report, rfl, hannounces.1, ?_, ?_⟩, hannounces.2⟩
    · intro hnone
      rw [hspoken, hnone] at hsilent
      exact hsilent rfl
    · rw [hspoken, hannounces.1]

private theorem writes_perform {style : Style} (hjson : style.json = true) (s : Setting σ)
    (defaults : Defaults) {command : Command}
    (hread : ∀ path offset length, command ≠ .read path offset length) :
    Writes (perform s style defaults command) fun bytes =>
      IsJsonOutput bytes ∨ Announces style command bytes := by
  cases command with
  | list a => exact (writes_browse hjson s defaults a).imp fun _ h => .inl h
  | read path offset length => exact absurd rfl (hread path offset length)
  | put a => exact (writes_put hjson s defaults a).imp fun _ h => .inl h
  | attributes path => exact (writes_stat hjson s path).imp fun _ h => .inl h
  | remove a => exact (Remove.writes_execute hjson s a).imp fun _ h => h.cases
  | sign path expiry => exact (writes_sign hjson s path expiry).imp fun _ h => .inl h
  | defineAlias name url => exact (writes_define hjson ⟨name, url⟩).imp fun _ h => .inl h
  | listAliases => exact (writes_listAliases hjson).imp fun _ h => .inl h
  | removeAlias name => exact (writes_removeAlias hjson name).imp fun _ h => .inl h

/-- When JSON is on, whether by the command line or by the configuration, every command but the one
that writes the contents of an object writes nothing or one JSON document, whatever its service and
its files do. The exception is a dry run of removing: unless it is quiet, it announces what it would
remove on the same stream, and with anything to announce that is no JSON. -/
theorem run_writes_json (s : Setting σ) (colors : Bool) {i : Invocation} {d : Desk σ}
    (hmode : ∀ config, d.config.load = .ok config →
      i.style.json = true ∨ config.defaults.output = "json")
    (hread : ∀ path offset length, i.command ≠ .read path offset length) :
    ∃ bytes, (i.run s colors d).2.terminal.out = d.terminal.out ++ bytes ∧
      ((IsJsonOutput bytes ∧ ¬Announces i.style i.command bytes) ∨
        (Announces i.style i.command bytes ∧ ¬IsJsonOutput bytes)) := by
  cases hload : d.config.load with
  | error e =>
    have hquiet : ¬Announces i.style i.command ByteArray.empty := fun h =>
      h.not_isJsonOutput isJsonOutput_empty
    refine ⟨ByteArray.empty, ?_, .inl ⟨isJsonOutput_empty, hquiet⟩⟩
    rw [Invocation.out_of_unloaded s colors i hload, ByteArray.append_empty]
  | ok config =>
    have hjson := i.json_styleWith colors (hmode config hload)
    obtain ⟨bytes, hout, hbytes⟩ := writes_perform hjson s config.defaults hread d
    refine ⟨bytes, ?_, ?_⟩
    · rw [Invocation.run_of_load s colors i hload, desk_run]
      exact hout
    · rcases hbytes with h | h
      · exact .inl ⟨h, fun hn => hn.not_isJsonOutput h⟩
      · have hloud : Announces i.style i.command bytes := ⟨h.reports, h.loud⟩
        exact .inr ⟨hloud, hloud.not_isJsonOutput⟩

/-- Buckets in memory with nothing in them. -/
def emptySetting : Setting (Fleet (Noted Memory)) := setting .none .bare

def emptyDesk : Desk (Fleet (Noted Memory)) := ⟨.absent, ∅, .blank⟩

theorem run_writes_json_aliases :
    let i : Invocation := ⟨⟨true, false, false, false⟩, .listAliases⟩
    ∃ bytes, (i.run emptySetting false emptyDesk).2.terminal.out =
        emptyDesk.terminal.out ++ bytes ∧
      ((IsJsonOutput bytes ∧ ¬Announces i.style i.command bytes) ∨
        (Announces i.style i.command bytes ∧ ¬IsJsonOutput bytes)) :=
  run_writes_json emptySetting false (fun _ _ => .inl rfl) nofun

/-- A dry run that announces a key writes no JSON, although JSON has been asked for. -/
theorem run_writes_json_dry_run :
    let i : Invocation := ⟨⟨true, false, false, false⟩, .remove ⟨["s3://b/k"], false, true⟩⟩
    ¬IsJsonOutput (i.run emptySetting false emptyDesk).2.terminal.out := by
  intro i
  have hout : (i.run emptySetting false emptyDesk).2.terminal.out = Remove.announced ["k"] ++
      ((Remove.Report.json true ⟨["k"], [], .success⟩).text ++ "\n").toUTF8 := by decide +kernel
  rw [hout]
  exact Remove.not_isJsonOutput_announced (List.cons_ne_nil _ _) _

end BlobStore.Cli
