import BlobStore.Cli.Run
import BlobStore.Proofs.Bucket.Requests
import BlobStore.Proofs.Cli.Copying

/-!
# What commands keep

A property of the desk is kept by a command if it does not depend on what is written to the standard
output, and if it is kept by reporting errors, by opening the buckets that the paths of the command
lead to and by the requests about those.
-/

namespace BlobStore.Cli

variable {σ α : Type}

/-- The paths that a command is given. -/
def Command.paths : Command → List String
  | .list a => [a.path]
  | .read path _ _ => [path]
  | .put a => [a.target]
  | .attributes path => [path]
  | .remove a => a.paths
  | .sign path _ => [path]
  | .defineAlias _ _ => []
  | .listAliases => []
  | .removeAlias _ => []

/-- A property that is kept by what is shown in a style, by opening the buckets that some paths lead
to, and by the requests about them. -/
structure Minds (s : Setting σ) (style : Style) (paths : List String) (Inv : Desk σ → Prop) : Prop where
  written : ∀ {d out}, Inv d → Inv { d with terminal := { d.terminal with out } }
  complained : ∀ {d message}, Inv d → Inv { d with terminal := style.error message d.terminal }
  opened : ∀ {path target location d}, path ∈ paths → Target.parse path = .ok target →
    locate d.config target = .ok location → Inv d →
    Inv { d with services := (s.connect location d.services).2 } ∧
      ∀ b, (s.connect location d.services).1 = .ok b → (deskBucket b).serve.Keeps b.name Inv

/-! ## What is shown that is no error -/

private theorem err_ite {c : Prop} [Decidable c] {t u : Terminal} {err : ByteArray}
    (ht : t.err = err) (hu : u.err = err) : (if c then t else u).err = err := by
  split
  · exact ht
  · exact hu

private theorem err_success (style : Style) (message : String) (t : Terminal) :
    (style.success message t).err = t.err :=
  err_ite rfl rfl

private theorem err_line (style : Style) (text : String) (t : Terminal) :
    (style.line text t).err = t.err :=
  err_ite rfl rfl

private theorem err_lines (style : Style) (lines : List String) (t : Terminal) :
    (lines.foldl (fun t line => style.line line t) t).err = t.err := by
  induction lines generalizing t with
  | nil => rfl
  | cons line rest ih =>
    rw [List.foldl_cons, ih]
    exact err_line style line t

variable {s : Setting σ} {style : Style} {paths : List String} {Inv : Desk σ → Prop}
  (h : Minds s style paths Inv)

/-! ## Steps -/

section Steps

include h

theorem Minds.shown {f : Terminal → Terminal} (hf : ∀ t, (f t).err = t.err) {d : Desk σ} (hd : Inv d) :
    Inv { d with terminal := f d.terminal } := by
  have hterminal : f d.terminal = ⟨(f d.terminal).out, d.terminal.err⟩ := by
    rw [← hf d.terminal]
  rw [hterminal]
  exact h.written hd

private theorem keeps_display {f : Terminal → Terminal} (hf : ∀ t, (f t).err = t.err) :
    Keeps Inv (Step.display f) fun _ => True :=
  fun _ hd => ⟨h.shown hf hd, fun _ _ => trivial⟩

private theorem keeps_report {f : Terminal → Terminal} (hf : ∀ t, (f t).err = t.err)
    (status : ExitStatus) :
    Keeps Inv (do Step.display f; return status : Step σ ExitStatus) fun _ => True :=
  (keeps_display h hf).bind fun _ _ => .pure trivial

private theorem keeps_complaint (message : String) :
    Keeps Inv (Step.display (style.error message)) fun _ => True :=
  fun _ hd => ⟨h.complained hd, fun _ _ => trivial⟩

private theorem keeps_fail (context : String) (e : Error) (P : α → Prop) :
    Keeps Inv (Step.fail style context e) P :=
  fun _ hd => ⟨h.complained hd, nofun⟩

private theorem keeps_accept (context : String) (r : Except Error α) :
    Keeps Inv (Step.accept style context r) fun a => r = .ok a := by
  cases r with
  | ok a => exact .pure rfl
  | error e => exact keeps_fail h context e _

private theorem keeps_attempt {action : Action (Desk σ) α} {P : α → Prop} (context : String)
    (haction : Keeps Inv action P) : Keeps Inv (Step.attempt style context action) P := by
  intro d hd
  have hreached := haction d hd
  unfold Step.attempt
  generalize action d = reached at hreached ⊢
  obtain ⟨e | a, d'⟩ := reached
  · exact keeps_fail h context e P d' hreached.1
  · obtain ⟨hd', hgives⟩ := hreached
    exact ⟨hd', fun a' ha => hgives a' (congrArg Except.ok (Except.ok.inj ha))⟩

private theorem keeps_openBucket {path : String} {target : Target} (hpath : path ∈ paths)
    (hparse : Target.parse path = .ok target) :
    Keeps Inv (openBucket s target) fun b => b.serve.Keeps b.name Inv := by
  intro d hd
  unfold openBucket
  cases hlocate : locate d.config target with
  | error e => exact ⟨hd, nofun⟩
  | ok location =>
    obtain ⟨hopened, hkeeps⟩ := h.opened hpath hparse hlocate hd
    have hservices : onServices (s.connect location) d =
        ((s.connect location d.services).1, { d with services := (s.connect location d.services).2 }) :=
      rfl
    dsimp only
    generalize s.connect location d.services = reached at hservices hopened hkeeps
    obtain ⟨e | b, services⟩ := reached
    · rw [bind_of_error hservices]
      exact ⟨hopened, nofun⟩
    · rw [bind_of_ok hservices]
      exact Keeps.pure (P := fun b : Bucket (Desk σ) => b.serve.Keeps b.name Inv) (hkeeps b rfl) _ hopened

private theorem keeps_resolve {path : String} (hpath : path ∈ paths) :
    Keeps Inv (resolve s style path) fun r => r.2.serve.Keeps r.2.name Inv := by
  unfold resolve
  refine (keeps_accept h _ _).bind fun target hparse => ?_
  refine (keeps_attempt h _ (keeps_openBucket h hpath hparse)).bind fun b hb => ?_
  exact .pure hb

private theorem keeps_resolveObject {path : String} (hpath : path ∈ paths) :
    Keeps Inv (resolveObject s style path) fun r => r.2.serve.Keeps r.2.name Inv := by
  unfold resolveObject
  refine (keeps_accept h _ _).bind fun target hparse => ?_
  have hopen := keeps_attempt h "Failed to open bucket" (keeps_openBucket h hpath hparse)
  refine .ite ?_ (hopen.bind fun b hb => .pure hb)
  refine (keeps_complaint h _).bind fun _ _ => ?_
  exact (Keeps.throw (P := fun _ => False) _).bind fun _ hnever => hnever.elim

private theorem keeps_source (a : PutArguments) :
    Keeps Inv (Put.source s style a) fun _ => True := by
  unfold Put.source
  cases a.file with
  | none => exact .pure trivial
  | some path =>
    dsimp only
    cases s.openFile path with
    | error e => exact (keeps_complaint h _).bind fun _ _ => .throw _
    | ok file => exact (keeps_accept h _ _).bind fun _ _ => .pure trivial

private theorem keeps_conclude (a : PutArguments) (contentType : Option String)
    (result : Except Put.Stop Nat) :
    Keeps Inv (Put.conclude style a contentType result) fun _ => True := by
  rcases result with (e | _) | size
  · exact keeps_fail h _ e _
  · exact (keeps_complaint h _).bind fun _ _ => .pure trivial
  · refine keeps_report h (fun _ => ?_) .success
    exact err_ite rfl (err_success _ _ _)

end Steps

section Operations

variable {b : Bucket (Desk σ)} (hb : b.serve.Keeps b.name Inv)

include hb

theorem keeps_entries (pageLimit : Nat) (all : Bool) (o : ListOptions) :
    Keeps Inv (Browse.entries b pageLimit all o) fun _ => True := by
  intro d hd
  refine ⟨?_, fun _ _ => trivial⟩
  unfold Browse.entries
  split
  · have hcollect := (ListCursor.keeps_collect hb pageLimit (.new o) d hd).1
    generalize ListCursor.collect b pure pageLimit (.new o) d = reached at hcollect ⊢
    obtain ⟨_ | _, d'⟩ := reached
    · exact hcollect
    · exact hcollect
  · have hpage := (Bucket.keeps_listPage hb o d hd).1
    generalize b.listPage o pure d = reached at hpage ⊢
    obtain ⟨_ | _, d'⟩ := reached
    · exact hpage
    · exact hpage

/-- A part of a copy keeps the bucket of the writer, too. -/
def KeepsCopy (b : Bucket (Desk σ)) (Inv : Desk σ → Prop) (part : Put.Copy (Desk σ) α) : Prop :=
  Keeps (fun x => x.1.IsAbout b.name ∧ Inv x.2) part fun _ => True

private theorem keeps_pause (p : Pause) : KeepsCopy b Inv (Put.Copy.pause b.serve p) :=
  fun _ hx => ⟨hx.1.polls hb p.turns hx.2, fun _ _ => trivial⟩

private theorem keeps_write (p : Pause) (piece : ByteArray) :
    KeepsCopy b Inv (Put.Copy.write b.serve p piece) := by
  have hsend : KeepsCopy b Inv (Put.Copy.send b.serve piece) :=
    fun _ hx => ⟨hx.1.send hb piece hx.2, fun _ _ => trivial⟩
  rintro ⟨w, d⟩ hx
  by_cases hfailed : ∃ e, w.outcome? = some (.error e)
  · obtain ⟨e, hout⟩ := hfailed
    rw [Put.write_of_failed hout]
    exact ⟨hx, nofun⟩
  · rw [Put.write_of_unfailed fun e he => hfailed ⟨e, he⟩]
    exact (keeps_pause hb p).bind (fun _ _ => hsend) _ ⟨hx.1.start, hx.2⟩

private theorem keeps_writeEach (pieces : List ByteArray) (pauses : Nat → Pause) :
    KeepsCopy b Inv (Put.Copy.writeEach b.serve pieces pauses) := by
  induction pieces generalizing pauses with
  | nil => exact (keeps_pause hb _).bind fun _ _ => .pure trivial
  | cons piece rest ih =>
    refine (keeps_pause hb _).bind fun _ _ => (keeps_write hb _ piece).bind fun size _ => ?_
    exact (ih _).bind fun _ _ => .pure trivial

private theorem transfer_about {w : Writer} (hw : w.IsAbout b.name) (schedule : Schedule)
    (source : Source) {d : Desk σ} (hd : Inv d) :
    Inv (Put.transfer b.serve schedule w source d).2 := by
  have hrun : KeepsCopy b Inv (Put.Copy.run b.serve schedule.copying source) := by
    refine (keeps_writeEach hb source.pieces schedule.copying).bind fun size _ => ?_
    cases source.failure with
    | none => exact .pure trivial
    | some e => exact .throw _
  have hcopy := (hrun (w, d) ⟨hw, hd⟩).1
  unfold Put.transfer
  generalize Put.Copy.run b.serve schedule.copying source (w, d) = reached at hcopy ⊢
  obtain ⟨_ | size, w', d'⟩ := reached
  · obtain ⟨habout, hpolls⟩ := hcopy.1.cancel.polls hb schedule.closing hcopy.2
    exact habout.close hb hpolls
  · obtain ⟨habout, hpolls⟩ := hcopy.1.polls hb schedule.closing hcopy.2
    have hclose := habout.close hb hpolls
    dsimp only
    generalize Writer.close _ _ _ = closed at hclose ⊢
    obtain ⟨_ | _, d''⟩ := closed
    · exact hclose
    · exact hclose

end Operations

private theorem keeps_onConfig (hconfig : ∀ {d config}, Inv d → Inv { d with config })
    (action : Action ConfigFile α) :
    Keeps Inv (onConfig action : Action (Desk σ) α) fun _ => True :=
  fun _ hd => ⟨hconfig hd, fun _ _ => trivial⟩

/-! ## Commands -/

section Commands

include h

private theorem keeps_conclude_listing (build : Build) (entries : List ListEntry)
    (token : Option String) (summarize : Bool) :
    Keeps Inv (Browse.conclude style build entries token summarize) fun _ => True := by
  have hprint : ∀ report t, (Browse.Report.print style report t).err = t.err :=
    fun _ _ => err_ite rfl (err_lines _ _ _)
  unfold Browse.conclude
  refine .ite (keeps_report h (hprint _) .success) ?_
  cases Browse.Summary.of? build entries with
  | some summary => exact keeps_report h (hprint _) .success
  | none => exact (keeps_display h fun _ => err_ite rfl (hprint _ _)).bind fun _ _ => .throw _

private theorem keeps_browse (defaults : Defaults) (a : ListArguments) (hpath : a.path ∈ paths) :
    Keeps Inv (Browse.execute s style defaults a) fun _ => True := by
  unfold Browse.execute
  refine (keeps_accept h _ _).bind fun token _ => ?_
  refine (keeps_resolve h hpath).bind fun r hb => ?_
  refine (keeps_attempt h _ (keeps_entries hb _ _ _)).bind fun listed _ => ?_
  exact keeps_conclude_listing h _ _ _ _

private theorem keeps_read (path : String) (hpath : path ∈ paths) (offset : Nat)
    (length : Option Nat) :
    Keeps Inv (Read.execute s style path offset length) fun _ => True := by
  unfold Read.execute
  refine (keeps_resolveObject h hpath).bind fun r hb => ?_
  refine (keeps_attempt h _ (Bucket.keeps_readRange hb _ _ _)).bind fun reading _ => ?_
  refine keeps_report h (fun _ => ?_) .success
  exact rfl

private theorem keeps_put (defaults : Defaults) (a : PutArguments) (hpath : a.target ∈ paths) :
    Keeps Inv (Put.execute s style defaults a) fun _ => True := by
  unfold Put.execute
  refine (keeps_resolveObject h hpath).bind fun r hb => ?_
  refine (keeps_source h a).bind fun source _ => ?_
  refine (keeps_accept h _ _).bind fun w hopen => ?_
  obtain rfl := Except.ok.inj hopen
  refine Keeps.bind (.lift fun d hd => ?_) fun result _ => keeps_conclude h a _ result
  exact transfer_about hb (w := .new (r.2.newObject r.1.key (Put.options s.mediaType defaults a r.1.key))
    (partSizeFor (Put.options s.mediaType defaults a r.1.key).bufferSize)) ⟨rfl, trivial⟩ s.schedule
    source hd

private theorem keeps_stat (path : String) (hpath : path ∈ paths) :
    Keeps Inv (Stat.execute s style path) fun _ => True := by
  unfold Stat.execute
  refine (keeps_resolveObject h hpath).bind fun r hb => ?_
  refine (keeps_attempt h _ (Bucket.keeps_attributes hb _)).bind fun attributes _ => ?_
  refine keeps_report h (fun _ => ?_) .success
  exact err_ite rfl (err_lines _ _ _)

private theorem keeps_sign (path : String) (hpath : path ∈ paths) (expiry : Duration) :
    Keeps Inv (Sign.execute s style path expiry) fun _ => True := by
  unfold Sign.execute
  refine (keeps_accept h _ _).bind fun _ _ => ?_
  refine (keeps_resolveObject h hpath).bind fun r hb => ?_
  refine (keeps_attempt h _ (Bucket.keeps_signedUrl hb _ _)).bind fun url _ => ?_
  refine keeps_report h (fun _ => ?_) .success
  exact err_ite rfl rfl

private theorem removeOne_about {b : Bucket (Desk σ)} (hb : b.serve.Keeps b.name Inv)
    (dryRun : Bool) (r : Remove.Report) (key : String) {d : Desk σ} (hd : Inv d) :
    Inv (Remove.removeOne style dryRun b r key d).2 := by
  unfold Remove.removeOne
  split
  · exact h.shown (err_line _ _) hd
  · have hdelete := (Bucket.keeps_delete hb key d hd).1
    generalize b.delete key d = reached at hdelete ⊢
    obtain ⟨_ | _, d'⟩ := reached
    · exact h.complained hdelete
    · exact h.shown (err_success _ _) hdelete

private theorem removeBelow_about {b : Bucket (Desk σ)} (hb : b.serve.Keeps b.name Inv)
    (dryRun : Bool) (pageLimit : Nat) (target : Target) (r : Remove.Report) {d : Desk σ}
    (hd : Inv d) :
    Inv (Remove.removeBelow style dryRun b pageLimit target r d).2 := by
  have hfold := ListCursor.fold_about hb
    (fun r e _ hs => removeOne_about h hb dryRun r e.key hs) pageLimit
    (.new ⟨target.key, "", 0, none⟩) r hd
  unfold Remove.removeBelow
  dsimp only
  generalize ListCursor.fold b pure _ pageLimit _ r d = reached at hfold ⊢
  obtain ⟨⟨_ | _, r'⟩, d'⟩ := reached
  · exact h.complained hfold
  · exact hfold

private theorem removePath_about (a : RemoveArguments) (r : Remove.Report) {path : String}
    (hpath : path ∈ paths) {d : Desk σ} (hd : Inv d) :
    Inv (Remove.removePath s style a r path d).2 := by
  unfold Remove.removePath
  cases hparse : Target.parse path with
  | error e => exact h.complained hd
  | ok target =>
    dsimp only
    split
    · exact h.complained hd
    · have hopen := keeps_openBucket h hpath hparse d hd
      generalize openBucket s target d = reached at hopen ⊢
      obtain ⟨e | b, d'⟩ := reached
      · exact h.complained hopen.1
      · have hb := hopen.2 b rfl
        dsimp only
        split
        · exact removeBelow_about h hb a.dryRun s.pageLimit target r hopen.1
        · exact removeOne_about h hb a.dryRun r target.key hopen.1

private theorem keeps_remove (a : RemoveArguments) (hpaths : a.paths ⊆ paths) :
    Keeps Inv (Remove.execute s style a) fun _ => True := by
  have hall : ∀ d, Inv d → Inv (Remove.removeAll s style a d).2 := fun d =>
    foldlM_leads (fun given x y => given ⊆ paths → Inv x.2 → Inv y.2) (fun _ _ => id)
      (fun path r d hpath => removePath_about h a r (hpath List.mem_cons_self))
      (fun hxy hyz hgiven hx => hyz (List.append_subset.mp hgiven).2
        (hxy (List.append_subset.mp hgiven).1 hx)) a.paths .start d hpaths
  unfold Remove.execute
  refine Keeps.bind (P := fun _ => True) (fun d hd => ⟨hall d hd, fun _ _ => trivial⟩) fun report _ => ?_
  exact .ite (keeps_report h (fun _ => by rfl) report.status) (.pure trivial)

section Aliases

variable (hconfig : ∀ {d config}, Inv d → Inv { d with config })

include hconfig

private theorem keeps_define (a : Alias) : Keeps Inv (Aliases.define style a) fun _ => True := by
  unfold Aliases.define
  refine (keeps_accept h _ _).bind fun _ _ => ?_
  have hchange := keeps_attempt h "Failed to save alias" (keeps_onConfig hconfig (ConfigFile.defineAlias a))
  refine hchange.bind fun _ _ => keeps_report h (fun _ => ?_) .success
  exact err_ite rfl (err_success _ _ _)

private theorem keeps_removeAlias (name : String) :
    Keeps Inv (Aliases.remove style name) fun _ => True := by
  unfold Aliases.remove
  have hchange := keeps_attempt h "Failed to remove alias"
    (keeps_onConfig hconfig (ConfigFile.removeAlias name))
  refine hchange.bind fun _ _ => keeps_report h (fun _ => ?_) .success
  exact err_ite rfl (err_success _ _ _)

end Aliases

private theorem keeps_listAliases : Keeps Inv (Aliases.list style) fun _ => True := by
  have hget : Keeps Inv (get : Step σ (Desk σ)) fun _ => True := fun _ hd => ⟨hd, fun _ _ => trivial⟩
  unfold Aliases.list
  refine hget.bind fun d _ => (keeps_accept h _ _).bind fun aliases _ => ?_
  refine .ite (keeps_report h (fun _ => by rfl) .success) (keeps_report h (fun _ => ?_) .success)
  exact err_lines _ _ _

end Commands

/-- The configuration is changed by commands without paths only. -/
theorem keeps_perform (defaults : Defaults) {command : Command} (h : Minds s style command.paths Inv)
    (hconfig : command.paths = [] → ∀ {d config}, Inv d → Inv { d with config }) :
    Keeps Inv (perform s style defaults command) fun _ => True := by
  cases command with
  | list a => exact keeps_browse h defaults a (List.mem_singleton_self _)
  | read path offset length => exact keeps_read h path (List.mem_singleton_self _) offset length
  | put a => exact keeps_put h defaults a (List.mem_singleton_self _)
  | attributes path => exact keeps_stat h path (List.mem_singleton_self _)
  | remove a => exact keeps_remove h a (List.Subset.refl _)
  | sign path expiry => exact keeps_sign h path (List.mem_singleton_self _) expiry
  | defineAlias name url => exact keeps_define h (hconfig rfl) ⟨name, url⟩
  | listAliases => exact keeps_listAliases h
  | removeAlias name => exact keeps_removeAlias h (hconfig rfl) name

end BlobStore.Cli
