import BlobStore.Proofs.Action
import BlobStore.Proofs.Config.File

/-!
# The aliases in a file are an ordered map

A file is read, changed and written as a whole. Since a configuration is read as it has been
written, a change of the aliases is all that happens to the configuration, whatever the file held
before, and what fails leaves the file as it was.
-/

namespace BlobStore.ConfigFile

variable {file : ConfigFile} {config : Config} {a : Alias} {name : String} {e : Error}

/-! ## Loading what has been saved -/

private theorem schemaVersion_of_load (h : file.load = .ok config) :
    config.schemaVersion.toNat ≤ BlobStore.schemaVersion := by
  cases file with
  | absent =>
    cases h
    decide
  | directory => cases h
  | present bytes ownerOnly =>
    rw [load] at h
    split at h
    · cases h
    · exact Config.schemaVersion_of_parse h

private theorem load_ne_aliasNotFound (file : ConfigFile) (name : String) :
    file.load ≠ .error (.aliasNotFound name) := by
  intro h
  cases file with
  | absent => cases h
  | directory => cases h
  | present bytes ownerOnly =>
    rw [load] at h
    split at h
    · cases h
    · unfold Config.parse at h
      split at h
      · cases h
      · split at h
        · cases h
        · split at h
          · cases h
          · cases h

private theorem exists_save (hload : file.load = .ok config) (aliases : List Alias) :
    ∃ next, save { config with aliases } file = (.ok (), next) ∧
      next.load = .ok { config with aliases } := by
  have hversion := schemaVersion_of_load hload
  have hfile : file ≠ .directory := by
    rintro rfl
    cases hload
  exact ⟨_, save_of_ne_directory _ hfile, @load_text { config with aliases } hversion true⟩

private theorem defineAlias_of_check (hcheck : a.check = .error e) (file : ConfigFile) :
    defineAlias a file = (.error e, file) := by
  rw [defineAlias, hcheck]
  rfl

private theorem defineAlias_of_checked (hcheck : a.check = .ok ()) (file : ConfigFile) :
    defineAlias a file = ((liftM file.load : Action ConfigFile Config) >>= fun config =>
      save { config with aliases := Alias.define a config.aliases }) file := by
  rw [defineAlias, hcheck]
  rfl

private theorem defineAlias_of_unloaded (hcheck : a.check = .ok ()) (hload : file.load = .error e) :
    defineAlias a file = (.error e, file) := by
  rw [defineAlias_of_checked hcheck, hload]
  rfl

theorem defineAlias_of_load (hcheck : a.check = .ok ()) (hload : file.load = .ok config) :
    ∃ next, defineAlias a file = (.ok (), next) ∧
      next.load = .ok { config with aliases := config.aliases.filter (·.name ≠ a.name) ++ [a] } := by
  obtain ⟨next, hsave, hnext⟩ := exists_save hload (Alias.define a config.aliases)
  refine ⟨next, ?_, hnext⟩
  rw [defineAlias_of_checked hcheck, hload]
  exact hsave

private theorem removeAlias_eq (name : String) (file : ConfigFile) :
    removeAlias name file = ((liftM file.load : Action ConfigFile Config) >>= fun config => do
      if (Alias.without name config.aliases).length = config.aliases.length then
        throw (.aliasNotFound name)
      save { config with aliases := Alias.without name config.aliases }) file :=
  rfl

private theorem removeAlias_of_unloaded (hload : file.load = .error e) (name : String) :
    removeAlias name file = (.error e, file) := by
  rw [removeAlias_eq, hload]
  rfl

private theorem removeAlias_of_loaded (hload : file.load = .ok config) (name : String) :
    removeAlias name file =
      if (Alias.without name config.aliases).length = config.aliases.length then
        (.error (.aliasNotFound name), file)
      else save { config with aliases := Alias.without name config.aliases } file := by
  rw [removeAlias_eq, hload]
  refine (bind_of_ok rfl _).trans ?_
  split
  · rfl
  · rfl

private theorem removeAlias_of_mem (hload : file.load = .ok config)
    (hmem : ∃ a ∈ config.aliases, a.name = name) :
    ∃ next, removeAlias name file = (.ok (), next) ∧
      next.load = .ok { config with aliases := config.aliases.filter (·.name ≠ name) } := by
  obtain ⟨next, hsave, hnext⟩ := exists_save hload (Alias.without name config.aliases)
  refine ⟨next, ?_, hnext⟩
  have hshorter : (Alias.without name config.aliases).length ≠ config.aliases.length := by
    obtain ⟨a, ha, hname⟩ := hmem
    intro heq
    have hkept := List.length_filter_eq_length_iff.mp heq a ha
    exact of_decide_eq_true hkept hname
  rw [removeAlias_of_loaded hload, if_neg hshorter]
  exact hsave

private theorem removeAlias_of_absent (hload : file.load = .ok config)
    (habsent : ∀ a ∈ config.aliases, a.name ≠ name) :
    removeAlias name file = (.error (.aliasNotFound name), file) := by
  have hsame : (Alias.without name config.aliases).length = config.aliases.length := by
    refine List.length_filter_eq_length_iff.mpr fun a ha => ?_
    exact decide_eq_true (habsent a ha)
  rw [removeAlias_of_loaded hload, if_pos hsame]

/-- Either nothing has been written, or all of a configuration. -/
theorem defineAlias_of_error (h : (defineAlias a file).1 = .error e) : (defineAlias a file).2 = file := by
  cases hcheck : a.check with
  | error why => rw [defineAlias_of_check hcheck]
  | ok =>
    cases hload : file.load with
    | error why => rw [defineAlias_of_unloaded hcheck hload]
    | ok config =>
      obtain ⟨next, hdefine, -⟩ := defineAlias_of_load hcheck hload
      rw [hdefine] at h
      cases h

private theorem removeAlias_of_error (h : (removeAlias name file).1 = .error e) :
    (removeAlias name file).2 = file := by
  cases hload : file.load with
  | error why => rw [removeAlias_of_unloaded hload]
  | ok config =>
    by_cases hmem : ∃ a ∈ config.aliases, a.name = name
    · obtain ⟨next, hremove, -⟩ := removeAlias_of_mem hload hmem
      rw [hremove] at h
      cases h
    · have habsent : ∀ a ∈ config.aliases, a.name ≠ name := fun a ha hname => hmem ⟨a, ha, hname⟩
      rw [removeAlias_of_absent hload habsent]

/-! ## Calls one after the other -/

inductive Call where
  | define (a : Alias)
  | remove (name : String)
  | find (name : String)
  | has (name : String)
  | list

inductive Reply where
  | done
  | found (a : Alias)
  | known (isKnown : Bool)
  | listed (aliases : List Alias)
  deriving DecidableEq

/-- A change of the file, which has nothing else to reply. -/
def change (file : ConfigFile) (action : Action ConfigFile Unit) : Except Error Reply × ConfigFile :=
  let (result, next) := action file
  (result.map fun _ => .done, next)

/-- The reply to a call, and the file after it. -/
def perform (file : ConfigFile) : Call → Except Error Reply × ConfigFile
  | .define a => file.change (defineAlias a)
  | .remove name => file.change (removeAlias name)
  | .find name => ((file.findAlias name).map .found, file)
  | .has name => ((file.hasAlias name).map .known, file)
  | .list => (file.aliases.map .listed, file)

def after (file : ConfigFile) : List Call → ConfigFile
  | [] => file
  | call :: calls => after (file.perform call).2 calls

/-- The aliases of a file are a map that keeps the order of definition. -/
structure OrderedMap (file : ConfigFile) : Prop where
  /-- What fails leaves the file as it was. -/
  failed : ∀ call e, (file.perform call).1 = .error e → (file.perform call).2 = file
  define_reply : ∀ a, (file.perform (.define a)).1 = (do a.check; discard file.load; return .done)
  defined : ∀ a, (file.perform (.define a)).1 = .ok .done → ∃ config, file.load = .ok config ∧
    (file.perform (.define a)).2.load =
      .ok { config with aliases := config.aliases.filter (·.name ≠ a.name) ++ [a] }
  remove_done : ∀ name, (file.perform (.remove name)).1 = .ok .done ↔
    ∃ config, file.load = .ok config ∧ ∃ a ∈ config.aliases, a.name = name
  removed : ∀ name, (file.perform (.remove name)).1 = .ok .done → ∃ config, file.load = .ok config ∧
    (file.perform (.remove name)).2.load =
      .ok { config with aliases := config.aliases.filter (·.name ≠ name) }
  remove_absent : ∀ name, (file.perform (.remove name)).1 = .error (.aliasNotFound name) ↔
    ∃ config, file.load = .ok config ∧ ∀ a ∈ config.aliases, a.name ≠ name
  /-- Asking changes nothing. -/
  asked : ∀ name, (file.perform (.find name)).2 = file ∧ (file.perform (.has name)).2 = file ∧
    (file.perform .list).2 = file
  listed : (file.perform .list).1 = file.load.map fun config => .listed config.aliases
  found : ∀ name a, (file.perform (.find name)).1 = .ok (.found a) ↔
    ∃ aliases, (file.perform .list).1 = .ok (.listed aliases) ∧
      aliases.find? (·.name = name) = some a
  known : ∀ name isKnown, (file.perform (.has name)).1 = .ok (.known isKnown) ↔
    ∃ aliases, (file.perform .list).1 = .ok (.listed aliases) ∧
      aliases.any (·.name = name) = isKnown
  missing : ∀ name, (file.perform (.find name)).1 = .error (.aliasNotFound name) ↔
    (file.perform (.has name)).1 = .ok (.known false)
  refused : ∀ name e, file.load = .error e → (file.perform (.remove name)).1 = .error e ∧
    (file.perform (.find name)).1 = .error e ∧ (file.perform (.has name)).1 = .error e

/-! ## What a change replies -/

private theorem error_of_change {action : Action ConfigFile Unit}
    (h : (file.change action).1 = .error e) :
    (action file).1 = .error e := by
  have hmap : ((action file).1.map fun _ => Reply.done) = .error e := h
  cases hresult : (action file).1 with
  | ok => rw [hresult] at hmap; cases hmap
  | error why =>
    rw [hresult] at hmap
    cases hmap
    rfl

private theorem unchanged_of_error (call : Call) (h : (file.perform call).1 = .error e) :
    (file.perform call).2 = file := by
  cases call with
  | define a => exact defineAlias_of_error (error_of_change h)
  | remove name => exact removeAlias_of_error (error_of_change h)
  | find name => rfl
  | has name => rfl
  | list => rfl

private theorem perform_define (hcheck : a.check = .ok ()) (hload : file.load = .ok config) :
    (file.perform (.define a)).1 = .ok .done ∧ (file.perform (.define a)).2.load =
      .ok { config with aliases := config.aliases.filter (·.name ≠ a.name) ++ [a] } := by
  obtain ⟨next, hdefine, hnext⟩ := defineAlias_of_load hcheck hload
  rw [perform, change, hdefine]
  exact ⟨rfl, hnext⟩

private theorem reply_define (file : ConfigFile) (a : Alias) :
    (file.perform (.define a)).1 = (do a.check; discard file.load; return .done) := by
  cases hcheck : a.check with
  | error e =>
    rw [perform, change, defineAlias_of_check hcheck]
    rfl
  | ok =>
    cases hload : file.load with
    | error e =>
      rw [perform, change, defineAlias_of_unloaded hcheck hload]
      rfl
    | ok config => exact (perform_define hcheck hload).1

theorem load_of_define {reply : Reply} (h : (file.perform (.define a)).1 = .ok reply) :
    a.check = .ok () ∧ ∃ config, file.load = .ok config := by
  rw [reply_define] at h
  cases hcheck : a.check with
  | error e =>
    rw [hcheck] at h
    cases h
  | ok =>
    cases hload : file.load with
    | error e =>
      rw [hcheck, hload] at h
      cases h
    | ok config => exact ⟨rfl, config, rfl⟩

private theorem perform_remove (hload : file.load = .ok config)
    (hmem : ∃ a ∈ config.aliases, a.name = name) :
    (file.perform (.remove name)).1 = .ok .done ∧ (file.perform (.remove name)).2.load =
      .ok { config with aliases := config.aliases.filter (·.name ≠ name) } := by
  obtain ⟨next, hremove, hnext⟩ := removeAlias_of_mem hload hmem
  rw [perform, change, hremove]
  exact ⟨rfl, hnext⟩

private theorem reply_remove_of_absent (hload : file.load = .ok config)
    (habsent : ∀ a ∈ config.aliases, a.name ≠ name) :
    (file.perform (.remove name)).1 = .error (.aliasNotFound name) := by
  rw [perform, change, removeAlias_of_absent hload habsent]
  rfl

private theorem reply_remove_of_error (hload : file.load = .error e) :
    (file.perform (.remove name)).1 = .error e := by
  rw [perform, change, removeAlias_of_unloaded hload]
  rfl

private theorem load_of_remove {reply : Reply} (h : (file.perform (.remove name)).1 = .ok reply) :
    ∃ config, file.load = .ok config ∧ ∃ a ∈ config.aliases, a.name = name := by
  cases hload : file.load with
  | error e =>
    rw [reply_remove_of_error hload] at h
    cases h
  | ok config =>
    refine ⟨config, rfl, Classical.byContradiction fun hnone => ?_⟩
    have habsent : ∀ a ∈ config.aliases, a.name ≠ name := fun a ha hname => hnone ⟨a, ha, hname⟩
    rw [reply_remove_of_absent hload habsent] at h
    cases h

private theorem remove_reply_eq_done : (file.perform (.remove name)).1 = .ok .done ↔
    ∃ config, file.load = .ok config ∧ ∃ a ∈ config.aliases, a.name = name := by
  constructor
  · exact load_of_remove
  · rintro ⟨config, hload, hmem⟩
    exact (perform_remove hload hmem).1

private theorem remove_reply_eq_notFound :
    (file.perform (.remove name)).1 = .error (.aliasNotFound name) ↔
    ∃ config, file.load = .ok config ∧ ∀ a ∈ config.aliases, a.name ≠ name := by
  constructor
  · intro h
    cases hload : file.load with
    | error e =>
      rw [reply_remove_of_error hload] at h
      cases h
      exact absurd hload (load_ne_aliasNotFound file name)
    | ok config =>
      refine ⟨config, rfl, fun a ha hname => ?_⟩
      rw [(perform_remove hload ⟨a, ha, hname⟩).1] at h
      cases h
  · rintro ⟨config, hload, habsent⟩
    exact reply_remove_of_absent hload habsent

/-! ## What a question replies -/

private theorem reply_list (file : ConfigFile) :
    (file.perform .list).1 = file.load.map fun config => .listed config.aliases := by
  rw [perform, aliases]
  cases file.load with
  | error e => rfl
  | ok config => rfl

private theorem reply_find_of_load (hload : file.load = .ok config) (name : String) :
    (file.perform (.find name)).1 =
      (config.aliases.find? (·.name = name)).elim (.error (.aliasNotFound name))
        fun a => .ok (.found a) := by
  rw [perform, findAlias, aliases, hload]
  simp only [Alias.find, Except.map, bind, Except.bind]
  cases config.aliases.find? (·.name = name) with
  | none => rfl
  | some a => rfl

private theorem reply_has_of_load (hload : file.load = .ok config) (name : String) :
    (file.perform (.has name)).1 = .ok (.known (config.aliases.any (·.name = name))) := by
  rw [perform, hasAlias, aliases, hload]
  rfl

private theorem reply_of_error (hload : file.load = .error e) (name : String) :
    (file.perform (.find name)).1 = .error e ∧ (file.perform (.has name)).1 = .error e ∧
      (file.perform .list).1 = .error e := by
  rw [perform, perform, perform, findAlias, hasAlias, aliases, hload]
  exact ⟨rfl, rfl, rfl⟩

private theorem find_reply_eq_ok : (file.perform (.find name)).1 = .ok (.found a) ↔
    ∃ aliases, (file.perform .list).1 = .ok (.listed aliases) ∧
      aliases.find? (·.name = name) = some a := by
  cases hload : file.load with
  | error e =>
    obtain ⟨hfind, -, hlist⟩ := reply_of_error hload name
    simp [hfind, hlist]
  | ok config =>
    rw [reply_find_of_load hload, reply_list, hload]
    cases hfound : config.aliases.find? (·.name = name) with
    | none => simp [Except.map, hfound]
    | some b => simp [Except.map, hfound]

private theorem has_reply_eq_ok {isKnown : Bool} :
    (file.perform (.has name)).1 = .ok (.known isKnown) ↔
    ∃ aliases, (file.perform .list).1 = .ok (.listed aliases) ∧
      aliases.any (·.name = name) = isKnown := by
  cases hload : file.load with
  | error e =>
    obtain ⟨-, hhas, hlist⟩ := reply_of_error hload name
    simp [hhas, hlist]
  | ok config =>
    rw [reply_has_of_load hload, reply_list, hload]
    simp [Except.map]

private theorem find_reply_eq_notFound :
    (file.perform (.find name)).1 = .error (.aliasNotFound name) ↔
    (file.perform (.has name)).1 = .ok (.known false) := by
  cases hload : file.load with
  | error e =>
    obtain ⟨hfind, hhas, -⟩ := reply_of_error hload name
    rw [hfind, hhas]
    simpa using fun heq : e = .aliasNotFound name => load_ne_aliasNotFound file name (heq ▸ hload)
  | ok config =>
    rw [reply_find_of_load hload, reply_has_of_load hload]
    cases hfound : config.aliases.find? (·.name = name) with
    | none => simpa using List.find?_eq_none.mp hfound
    | some b =>
      have hb := List.find?_some hfound
      have hany : config.aliases.any (·.name = name) = true :=
        List.any_eq_true.mpr ⟨b, List.mem_of_find?_eq_some hfound, hb⟩
      simp [hany]

private theorem orderedMap (file : ConfigFile) : OrderedMap file where
  failed call _ h := unchanged_of_error call h
  define_reply := reply_define file
  defined a h := by
    obtain ⟨hcheck, config, hload⟩ := load_of_define h
    exact ⟨config, hload, (perform_define hcheck hload).2⟩
  remove_done _ := remove_reply_eq_done
  removed name h := by
    obtain ⟨config, hload, hmem⟩ := load_of_remove h
    exact ⟨config, hload, (perform_remove hload hmem).2⟩
  remove_absent _ := remove_reply_eq_notFound
  asked _ := ⟨rfl, rfl, rfl⟩
  listed := reply_list file
  found _ _ := find_reply_eq_ok
  known _ _ := has_reply_eq_ok
  missing _ := find_reply_eq_notFound
  refused name _ h := by
    obtain ⟨hfind, hhas, -⟩ := reply_of_error h name
    exact ⟨reply_remove_of_error h, hfind, hhas⟩

/-! ## Over all calls -/

private theorem nodup_names_without {aliases : List Alias} (name : String)
    (h : (aliases.map (·.name)).Nodup) : ((aliases.filter (·.name ≠ name)).map (·.name)).Nodup :=
  h.sublist (List.filter_sublist.map _)

private theorem nodup_names_define {aliases : List Alias} (a : Alias)
    (h : (aliases.map (·.name)).Nodup) :
    ((aliases.filter (·.name ≠ a.name) ++ [a]).map (·.name)).Nodup := by
  rw [List.map_append, List.map_singleton, List.nodup_append]
  refine ⟨nodup_names_without a.name h, List.pairwise_singleton _ _, ?_⟩
  intro name hname other hother
  obtain ⟨b, hb, rfl⟩ := List.mem_map.mp hname
  rw [List.mem_singleton.mp hother]
  exact of_decide_eq_true (List.mem_filter.mp hb).2

/-- A call changes nothing but the aliases, and leaves no two of them with one name. -/
theorem load_perform (hload : file.load = .ok config) (call : Call) :
    ∃ aliases, (file.perform call).2.load = .ok { config with aliases } ∧
      ((config.aliases.map (·.name)).Nodup → (aliases.map (·.name)).Nodup) := by
  cases hreply : (file.perform call).1 with
  | error e =>
    rw [unchanged_of_error call hreply, hload]
    exact ⟨config.aliases, rfl, id⟩
  | ok reply =>
    cases call with
    | define a =>
      obtain ⟨hcheck, -⟩ := load_of_define hreply
      exact ⟨_, (perform_define hcheck hload).2, nodup_names_define a⟩
    | remove name =>
      obtain ⟨loaded, hloaded, hmem⟩ := load_of_remove hreply
      rw [hload] at hloaded
      cases hloaded
      exact ⟨_, (perform_remove hload hmem).2, nodup_names_without name⟩
    | find name => exact ⟨config.aliases, hload, id⟩
    | has name => exact ⟨config.aliases, hload, id⟩
    | list => exact ⟨config.aliases, hload, id⟩

/-- A file that cannot be loaded is never changed. -/
theorem perform_of_error (hload : file.load = .error e) (call : Call) :
    (file.perform call).2 = file := by
  cases call with
  | define a =>
    cases hreply : (file.perform (.define a)).1 with
    | error e => exact unchanged_of_error _ hreply
    | ok reply =>
      obtain ⟨-, config, hloaded⟩ := load_of_define hreply
      rw [hload] at hloaded
      cases hloaded
  | remove name => exact unchanged_of_error _ (reply_remove_of_error hload)
  | find name => rfl
  | has name => rfl
  | list => rfl

private theorem after_of_error (hload : file.load = .error e) (calls : List Call) :
    file.after calls = file := by
  induction calls with
  | nil => rfl
  | cons call calls ih => rw [after, perform_of_error hload, ih]

private theorem load_after (hload : file.load = .ok config) (calls : List Call) :
    ∃ aliases, (file.after calls).load = .ok { config with aliases } ∧
      ((config.aliases.map (·.name)).Nodup → (aliases.map (·.name)).Nodup) := by
  induction calls generalizing file config with
  | nil => exact ⟨config.aliases, hload, id⟩
  | cons call calls ih =>
    obtain ⟨aliases, hnext, hnodup⟩ := load_perform hload call
    obtain ⟨last, hlast, hrest⟩ := ih hnext
    exact ⟨last, hlast, fun h => hrest (hnodup h)⟩

/-- Whatever a file held at first, after any calls its aliases are an ordered map. Over all calls
the rest of the configuration stays the same, and names that were given once are given once. -/
theorem aliases_ordered (file : ConfigFile) (calls : List Call) :
    OrderedMap (file.after calls) ∧
      (∀ e, file.load = .error e → file.after calls = file) ∧
      ∀ config, file.load = .ok config →
        ∃ aliases, (file.after calls).load = .ok { config with aliases } ∧
          ((config.aliases.map (·.name)).Nodup → (aliases.map (·.name)).Nodup) :=
  ⟨orderedMap _, fun _ hload => after_of_error hload calls, fun _ hload => load_after hload calls⟩

/-- There are no defaults in it, and its strings stand between marks of both kinds. -/
def handwritten : ConfigFile :=
  let text := "schema_version = 0\n[[aliases]]\nurl = 'old'\nname = 'logs'\n" ++
    "[[aliases]]\nname = \"media\"\nurl = \"s3://media\"\n"
  .present text.toUTF8 false

theorem aliases_ordered_handwritten :
    handwritten.load = .ok ⟨0, .standard, [⟨"logs", "old"⟩, ⟨"media", "s3://media"⟩]⟩ ∧
      ∃ aliases, (handwritten.after [.define ⟨"logs", "s3://logs"⟩, .remove "media"]).load =
        .ok ⟨0, .standard, aliases⟩ ∧ (aliases.map (·.name)).Nodup := by
  have hload : handwritten.load =
      .ok ⟨0, .standard, [⟨"logs", "old"⟩, ⟨"media", "s3://media"⟩]⟩ := by decide +kernel
  obtain ⟨-, -, hkept⟩ :=
    aliases_ordered handwritten [.define ⟨"logs", "s3://logs"⟩, .remove "media"]
  obtain ⟨aliases, hafter, hnodup⟩ := hkept _ hload
  exact ⟨hload, aliases, hafter, hnodup (by decide)⟩

end BlobStore.ConfigFile
