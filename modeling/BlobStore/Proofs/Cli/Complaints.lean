import BlobStore.Proofs.Cli.Kept
import BlobStore.Proofs.Cli.Output

/-!
# Error reports for programs

When JSON is on a command writes nothing to the standard error but JSON objects that hold a message
each, and no codes for colors. A configuration that cannot be loaded is reported before that, in a
line for people and in color, whether or not JSON is on.
-/

namespace BlobStore.Cli

variable {σ : Type}

/-- Reports one after the other, each on lines of its own. -/
inductive IsReports : List Char → Prop
  | none : IsReports []
  | more {report rest : List Char} : Json.IsSingle "error" report → IsReports rest →
      IsReports (report ++ '\n' :: rest)

theorem IsReports.concat {text report : List Char} (h : IsReports text)
    (hreport : Json.IsSingle "error" report) : IsReports (text ++ report ++ ['\n']) := by
  induction h with
  | none => exact .more hreport .none
  | more hfirst hrest ih =>
    simp only [List.append_assoc, List.cons_append] at ih ⊢
    exact .more hfirst ih

theorem IsReports.isShown {text : List Char} (h : IsReports text) : Json.IsShown text := by
  induction h with
  | none => exact Json.isShown_of_all rfl
  | more hreport _ ih =>
    exact Json.isShown_append.mpr ⟨hreport.isDocument.isShown,
      List.forall_mem_cons.mpr ⟨.inr (by decide), ih⟩⟩

private theorem IsReports.colorless {text : List Char} (h : IsReports text) : '\x1b' ∉ text :=
  fun hc => absurd (h.isShown _ hc) (by decide)

/-- When JSON is on, all that is written to the standard error are reports. -/
theorem minds_reports (s : Setting σ) {style : Style} (hjson : style.json = true) (paths : List String)
    (err : ByteArray) :
    Minds s style paths fun d =>
      ∃ text : String, d.terminal.err = err ++ text.toUTF8 ∧ IsReports text.toList where
  written := id
  complained := by
    rintro d message ⟨text, herr, hreports⟩
    let report := (Json.Value.object [("error", .string message)]).text
    have herror : style.error message d.terminal = d.terminal.errorLine report := if_pos hjson
    have hline : (text ++ (report ++ "\n")).toList = text.toList ++ report.toList ++ ['\n'] := by
      rw [String.toList_append, String.toList_append, List.append_assoc]
      rfl
    refine ⟨text ++ (report ++ "\n"), ?_, ?_⟩
    · rw [herror, Terminal.errorLine, herr, ByteArray.append_assoc]
      exact congrArg (err ++ ·) String.toByteArray_append.symm
    · rw [hline]
      exact hreports.concat (Json.isSingle_text "error" (.string message))
  opened := fun _ _ _ hd => ⟨hd, fun _ _ _ _ _ hd => hd⟩

/-- The line that tells people that the configuration cannot be loaded. -/
def unloadedLine (e : Error) : String :=
  "\x1b[31m✗\x1b[0m Failed to load configuration: " ++ e.message ++ "\n"

private theorem not_isReports_unloadedLine (e : Error) : ¬IsReports (unloadedLine e).toList := by
  have hcode : '\x1b' ∈ "\x1b[31m✗\x1b[0m Failed to load configuration: ".toList := by decide +kernel
  intro hreports
  refine hreports.colorless ?_
  unfold unloadedLine
  rw [String.toList_append, String.toList_append]
  exact List.mem_append_left _ (List.mem_append_left _ hcode)

private theorem Invocation.err_of_unloaded (s : Setting σ) (colors : Bool) (i : Invocation)
    {d : Desk σ} {e : Error} (hload : d.config.load = .error e) :
    (i.run s colors d).2.terminal.err = d.terminal.err ++ (unloadedLine e).toUTF8 := by
  rw [run_of_unloaded s colors i hload]
  have hmark : Style.plain.paint [.red] "✗" ++ " " ++ ("Failed to load configuration" ++ ": ") =
      "\x1b[31m✗\x1b[0m Failed to load configuration: " := by decide +kernel
  have hline : Style.plain.paint [.red] "✗" ++ " " ++
      ("Failed to load configuration" ++ ": " ++ e.message) ++ "\n" = unloadedLine e := by
    rw [← String.append_assoc, hmark]
    rfl
  rw [← hline]
  rfl

/-- When JSON is on, whether by the command line or by the configuration, a command writes nothing to
the standard error but JSON objects with the one member `error`, without codes for colors, whatever its
service and its files do. A configuration that cannot be loaded is the exception: the one line that
is written then is for people and in color, and is no such object.

The standard error here is what the command writes to it. Lines of a log, and what the runtime says when
the program ends over a sum, are written by others. -/
theorem run_reports_json (s : Setting σ) (colors : Bool) {i : Invocation} {d : Desk σ}
    (hmode : ∀ config, d.config.load = .ok config →
      i.style.json = true ∨ config.defaults.output = "json") :
    ∃ text : String, (i.run s colors d).2.terminal.err = d.terminal.err ++ text.toUTF8 ∧
      (((∃ config, d.config.load = .ok config) ∧ IsReports text.toList ∧ '\x1b' ∉ text.toList) ∨
        ∃ e, d.config.load = .error e ∧ text = unloadedLine e ∧ ¬IsReports text.toList) := by
  cases hload : d.config.load with
  | error e =>
    exact ⟨unloadedLine e, i.err_of_unloaded s colors hload,
      .inr ⟨e, rfl, rfl, not_isReports_unloadedLine e⟩⟩
  | ok config =>
    have hjson := i.json_styleWith colors (hmode config hload)
    have hkeeps := keeps_perform config.defaults
      (minds_reports s hjson i.command.paths d.terminal.err) fun _ _ _ hd => hd
    obtain ⟨text, herr, hreports⟩ := (hkeeps d ⟨"", ByteArray.append_empty.symm, .none⟩).1
    refine ⟨text, ?_, .inl ⟨⟨config, rfl⟩, hreports, hreports.colorless⟩⟩
    rw [i.run_of_load s colors hload, desk_run]
    exact herr

/-- That there is no such alias is reported as JSON. -/
theorem run_reports_json_alias :
    let i : Invocation := ⟨⟨true, false, false, false⟩, .attributes "logs/k"⟩
    let err := (i.run emptySetting false emptyDesk).2.terminal.err
    err ≠ ByteArray.empty ∧ ∃ text : String, err = emptyDesk.terminal.err ++ text.toUTF8 ∧
      (((∃ config, emptyDesk.config.load = .ok config) ∧ IsReports text.toList ∧
        '\x1b' ∉ text.toList) ∨
        ∃ e, emptyDesk.config.load = .error e ∧ text = unloadedLine e ∧ ¬IsReports text.toList) :=
  ⟨by decide +kernel, run_reports_json emptySetting false fun _ _ => .inl rfl⟩

/-- A configuration of a newer kind is reported in color, although JSON has been asked for. -/
theorem run_reports_json_newer :
    let i : Invocation := ⟨⟨true, false, false, false⟩, .list ⟨"s3://b", "/", false, none, none, false, false⟩⟩
    let d : Desk (Fleet (Noted Memory)) :=
      ⟨.present "schema_version = 2\n".toUTF8 true, ∅, .blank⟩
    ∀ text : String, (i.run emptySetting false d).2.terminal.err = text.toUTF8 →
      ¬IsReports text.toList := by
  intro i d text htext
  have hload : d.config.load = .error (.config (.newerSchema 2)) := by decide +kernel
  have herr := i.err_of_unloaded emptySetting false hload
  have hempty : d.terminal.err ++ (unloadedLine (.config (.newerSchema 2))).toUTF8 =
      (unloadedLine (.config (.newerSchema 2))).toUTF8 := ByteArray.empty_append
  rw [htext, hempty] at herr
  rw [String.toByteArray_inj.mp herr]
  exact not_isReports_unloadedLine _

end BlobStore.Cli
