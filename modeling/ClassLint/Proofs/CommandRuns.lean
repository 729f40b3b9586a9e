import ClassLint.Command.Run
import ClassLint.Proofs.Decoding
import ClassLint.Proofs.DocumentOrder
import ClassLint.Proofs.JsonSpelling
import ClassLint.Proofs.Lexing
import ClassLint.Proofs.Settings

/-! Runs of the command. A run reports all of its files or none: the first thing that fails decides
the outcome, and what is reported of a file does not depend on the others. -/

namespace ClassLint

open Journaled

/-! ### What a run is about -/

/-- The configuration of a run: the recommended one, or that of the file that is named. -/
inductive LoadsConfig (read : FileReader) : Option RawText → Config → Prop where
  | recommended : LoadsConfig read none .recommended
  | named {path : RawText} {t : Text} {config : Config} (found : read path = .ok t)
      (given : Config.parse t = .ok config) : LoadsConfig read (some path) config

/-- Linting a source on its own, with nothing recorded before. -/
def Linter.lintAlone (linter : Linter) (dialect : Dialect) (source : Text) :
    Except LintError (List Diagnostic) :=
  (linter.lintSource dialect source).run.answer Journal.empty

def Lints (read : FileReader) (linter : Linter) (dialect? : Option Dialect) (path : RawText)
    (diagnostics : List Diagnostic) : Prop :=
  ∃ source, read path = .ok source ∧
    linter.lintAlone (dialect?.getD (.ofPath path)) source = .ok diagnostics

def Activates (read : FileReader) (invocation : Invocation) (linter : Linter) : Prop :=
  ∃ config, LoadsConfig read invocation.config? config ∧
    (Linter.ofConfig config).run.answer Journal.empty = .ok linter

/-- What a run complains about: its configuration, or else the first file that fails, where every
file before it can be linted. -/
inductive Complaint (around : Surroundings) (invocation : Invocation) : Text → Prop where
  | configUnreadable {path : RawText} {fault : ReadFault} (named : invocation.config? = some path)
      (failed : around.read path = .error fault) :
      Complaint around invocation
        ("failed to read config " ++ path.display ++ ": " ++ fault.message)
  | configMalformed {path : RawText} {t : Text} {fault : JsonFault}
      (named : invocation.config? = some path) (found : around.read path = .ok t)
      (failed : Config.parse t = .error fault) :
      Complaint around invocation
        ("invalid config " ++ path.display ++ ": " ++ around.explain (.configMalformed path fault))
  | configRefused {config : Config} {error : ConfigError}
      (loaded : LoadsConfig around.read invocation.config? config)
      (failed : (Linter.ofConfig config).run.answer Journal.empty = .error error) :
      Complaint around invocation ("invalid configuration: " ++ error.message ++
        if error.isCaused then ": " ++ around.explain (.configRefused error) else [])
  | fileUnreadable {linter : Linter} {before after : List RawText} {path : RawText}
      {fault : ReadFault} (active : Activates around.read invocation linter)
      (place : invocation.files = before ++ path :: after)
      (passed : ∀ earlier ∈ before, ∃ diagnostics,
        Lints around.read linter invocation.dialect? earlier diagnostics)
      (failed : around.read path = .error fault) :
      Complaint around invocation ("failed to read " ++ path.display ++ ": " ++ fault.message)
  | fileRefused {linter : Linter} {before after : List RawText} {path : RawText} {source : Text}
      {error : LintError} (active : Activates around.read invocation linter)
      (place : invocation.files = before ++ path :: after)
      (passed : ∀ earlier ∈ before, ∃ diagnostics,
        Lints around.read linter invocation.dialect? earlier diagnostics)
      (found : around.read path = .ok source)
      (failed : linter.lintAlone (invocation.dialect?.getD (.ofPath path)) source = .error error) :
      Complaint around invocation ("failed to lint " ++ path.display ++ ": " ++ error.message)

/-- The reports of a run in which every file can be linted, one for each file in order. -/
def Completes (read : FileReader) (invocation : Invocation) (reports : List FileReport) : Prop :=
  ∃ linter, Activates read invocation linter ∧
    List.Forall₂ (fun path report => report.path = path ∧
      Lints read linter invocation.dialect? path report.diagnostics) invocation.files reports

/-! ### Running -/

def checkAlone (read : FileReader) (linter : Linter) (dialect? : Option Dialect) (path : RawText) :
    Except CommandError FileReport :=
  match read path with
  | .error fault => .error (.fileUnreadable path fault)
  | .ok source =>
    match linter.lintAlone (dialect?.getD (.ofPath path)) source with
    | .error error => .error (.fileRefused path error)
    | .ok diagnostics => .ok ⟨path, diagnostics⟩

theorem answers_lintAlone (linter : Linter) (dialect : Dialect) (source : Text) :
    Answers (linter.lintSource dialect source).run (linter.lintAlone dialect source) :=
  answers_answer (answers_lintSource linter dialect source) Journal.empty

theorem answers_checkFile (read : FileReader) (linter : Linter) (dialect? : Option Dialect)
    (path : RawText) :
    Answers (checkFile read linter dialect? path).run (checkAlone read linter dialect? path) := by
  rw [checkFile, checkAlone]
  cases read path with
  | error fault => exact answers_pure _
  | ok source =>
      have linted := answers_lintAlone linter (dialect?.getD (.ofPath path)) source
      rw [ExceptT.run_bind]
      simp only
      apply answers_bind (answers_map Except.ok linted)
      cases linter.lintAlone (dialect?.getD (.ofPath path)) source <;> exact answers_pure _

theorem answers_checkFiles (read : FileReader) (linter : Linter) (dialect? : Option Dialect)
    (files : List RawText) :
    Answers (checkFiles read linter dialect? files).run
      (files.mapM (checkAlone read linter dialect?)) := by
  induction files with
  | nil => exact answers_pure _
  | cons path rest ih =>
      rw [checkFiles, List.mapM_cons]
      apply answers_run_bind (answers_checkFile read linter dialect? path)
      intro report
      apply answers_run_bind ih
      intro reports
      exact answers_pure _

def Invocation.activated (invocation : Invocation) (read : FileReader) :
    Except CommandError Linter := do
  let config ← loadConfig read invocation.config?
  ((Linter.ofConfig config).run.answer Journal.empty).mapError .configRefused

def Invocation.collected (invocation : Invocation) (read : FileReader) :
    Except CommandError (List FileReport) := do
  let linter ← invocation.activated read
  invocation.files.mapM (checkAlone read linter invocation.dialect?)

theorem answers_collected {invocation : Invocation} {read : FileReader} {config : Config}
    (loaded : loadConfig read invocation.config? = .ok config) :
    Answers (invocation.check read config).run (invocation.collected read) := by
  have built := answers_answer (answers_ofConfig config) Journal.empty
  rw [Invocation.check, Invocation.collected, Invocation.activated, loaded, ExceptT.run_bind]
  apply answers_bind (answers_map Except.ok built)
  change Answers _ (((Linter.ofConfig config).run.answer Journal.empty).mapError
    CommandError.configRefused >>= _)
  cases (Linter.ofConfig config).run.answer Journal.empty with
  | error error => exact answers_pure _
  | ok linter =>
      have forgotten : Answers
          (liftM Journal.forgetNotices : ExceptT CommandError Journaled Unit).run (.ok ()) :=
        fun _ => rfl
      exact answers_run_bind forgotten fun _ =>
        answers_checkFiles read linter invocation.dialect? invocation.files

def Invocation.ending (invocation : Invocation) (paint : Painter) :
    Except CommandError (List FileReport) → Ending
  | .error error => .error error
  | .ok reports => invocation.report paint reports

theorem answers_run {invocation : Invocation} (reporting : invocation.printConfig = false)
    (around : Surroundings) :
    Answers (invocation.run around)
      (invocation.ending (around.outputPainter invocation)
        (invocation.collected around.read)) := by
  rw [Invocation.run]
  cases loaded : loadConfig around.read invocation.config? with
  | error error =>
      rw [Invocation.collected, Invocation.activated, loaded]
      exact answers_pure _
  | ok config =>
      have checked := answers_collected loaded
      simp only [reporting, Bool.false_eq_true, if_false]
      -- Only which of the two it is counts from here on, not how it was collected.
      generalize invocation.collected around.read = collected at checked ⊢
      apply answers_bind checked
      cases collected <;> exact answers_pure _

theorem runCommand_eq {around : Surroundings} {arguments : List RawText} {invocation : Invocation}
    (accepted : Request.ofArguments arguments = .ok (.check invocation))
    (reporting : invocation.printConfig = false) :
    ∃ logged, runCommand around arguments = .ok (invocation.outcome around logged
      (invocation.ending (around.outputPainter invocation) (invocation.collected around.read))) := by
  have answered := answers_run reporting around Journal.empty
  refine ⟨around.logged invocation ((invocation.run around).answer Journal.empty)
    (invocation.run around Journal.empty).2, ?_⟩
  rw [runCommand, accepted, ← answered]
  rfl

/-! ### What is collected -/

section Collected

variable {around : Surroundings} {read : FileReader} {invocation : Invocation} {linter : Linter}

theorem loadConfig_eq_ok_iff {config? : Option RawText} {config : Config} :
    loadConfig read config? = .ok config ↔ LoadsConfig read config? config := by
  constructor
  · intro loaded
    cases config? with
    | none =>
        cases loaded
        exact .recommended
    | some path =>
        rw [loadConfig] at loaded
        cases found : read path with
        | error fault => simp [found] at loaded
        | ok t =>
            cases given : Config.parse t with
            | error fault => simp [found, given] at loaded
            | ok parsed =>
                simp only [found, given, Except.ok.injEq] at loaded
                exact .named found (loaded ▸ given)
  · intro loads
    cases loads with
    | recommended => rfl
    | named found given => simp only [loadConfig, found, given]

theorem activated_eq_ok_iff :
    invocation.activated read = .ok linter ↔ Activates read invocation linter := by
  constructor
  · intro activated
    obtain ⟨config, loaded, built⟩ := exists_of_bind_eq_ok activated
    exact ⟨config, loadConfig_eq_ok_iff.mp loaded, eq_ok_of_mapError built⟩
  · rintro ⟨config, loads, built⟩
    rw [Invocation.activated, loadConfig_eq_ok_iff.mpr loads]
    exact congrArg (Except.mapError CommandError.configRefused) built

theorem checkAlone_eq_ok_iff {dialect? : Option Dialect} {path : RawText} {report : FileReport} :
    checkAlone read linter dialect? path = .ok report ↔
      report.path = path ∧ Lints read linter dialect? path report.diagnostics := by
  obtain ⟨source, diagnostics⟩ := report
  rw [checkAlone, Lints]
  cases read path with
  | error fault => simp
  | ok content =>
      cases linted : linter.lintAlone (dialect?.getD (.ofPath path)) content with
      | error error => simp [linted]
      | ok found => simp [linted, eq_comm]

theorem exists_checkAlone_iff {dialect? : Option Dialect} {path : RawText} :
    (∃ report, checkAlone read linter dialect? path = .ok report) ↔
      ∃ diagnostics, Lints read linter dialect? path diagnostics := by
  simp only [checkAlone_eq_ok_iff]
  exact ⟨fun ⟨report, _, lints⟩ => ⟨report.diagnostics, lints⟩,
    fun ⟨diagnostics, lints⟩ => ⟨⟨path, diagnostics⟩, rfl, lints⟩⟩

theorem collected_eq_ok_iff {reports : List FileReport} :
    invocation.collected read = .ok reports ↔ Completes read invocation reports := by
  constructor
  · intro collected
    obtain ⟨linter, activated, checked⟩ := exists_of_bind_eq_ok collected
    refine ⟨linter, activated_eq_ok_iff.mp activated, ?_⟩
    exact (mapM_eq_ok_iff.mp checked).imp fun _ _ => checkAlone_eq_ok_iff.mp
  · rintro ⟨linter, active, linted⟩
    rw [Invocation.collected, activated_eq_ok_iff.mpr active]
    exact mapM_eq_ok_iff.mpr (linted.imp fun _ _ => checkAlone_eq_ok_iff.mpr)

theorem complaint_of_checkAlone {before after : List RawText} {path : RawText} {error : CommandError}
    (active : Activates around.read invocation linter)
    (place : invocation.files = before ++ path :: after)
    (passed : ∀ earlier ∈ before, ∃ report,
      checkAlone around.read linter invocation.dialect? earlier = .ok report)
    (failed : checkAlone around.read linter invocation.dialect? path = .error error) :
    Complaint around invocation (error.message around.explain) := by
  have lints := fun earlier member => exists_checkAlone_iff.mp (passed earlier member)
  rw [checkAlone] at failed
  cases found : around.read path with
  | error fault =>
      simp only [found, Except.error.injEq] at failed
      exact failed ▸ .fileUnreadable active place lints found
  | ok source =>
      cases linted : linter.lintAlone (invocation.dialect?.getD (.ofPath path)) source with
      | ok diagnostics => simp [found, linted] at failed
      | error refused =>
          simp only [found, linted, Except.error.injEq] at failed
          exact failed ▸ .fileRefused active place lints found linted

theorem complaint_of_loadConfig {error : CommandError}
    (failed : loadConfig around.read invocation.config? = .error error) :
    Complaint around invocation (error.message around.explain) := by
  cases named : invocation.config? with
  | none =>
      rw [named] at failed
      cases failed
  | some path =>
      rw [named, loadConfig] at failed
      cases found : around.read path with
      | error fault =>
          simp only [found, Except.error.injEq] at failed
          exact failed ▸ .configUnreadable named found
      | ok t =>
          cases given : Config.parse t with
          | ok config => simp [found, given] at failed
          | error fault =>
              simp only [found, given, Except.error.injEq] at failed
              exact failed ▸ .configMalformed named found given

theorem complaint_of_activated {error : CommandError}
    (failed : invocation.activated around.read = .error error) :
    Complaint around invocation (error.message around.explain) := by
  rw [Invocation.activated] at failed
  cases loaded : loadConfig around.read invocation.config? with
  | error refused =>
      rw [loaded] at failed
      cases failed
      exact complaint_of_loadConfig loaded
  | ok config =>
      rw [loaded] at failed
      cases built : (Linter.ofConfig config).run.answer Journal.empty with
      | ok linter =>
          simp only [bind, Except.bind, built] at failed
          cases failed
      | error refused =>
          simp only [bind, Except.bind, built] at failed
          cases failed
          exact .configRefused (loadConfig_eq_ok_iff.mp loaded) built

theorem collected_eq_error {before after : List RawText} {path : RawText} {error : CommandError}
    (active : Activates read invocation linter)
    (place : invocation.files = before ++ path :: after)
    (passed : ∀ earlier ∈ before, ∃ diagnostics,
      Lints read linter invocation.dialect? earlier diagnostics)
    (failed : checkAlone read linter invocation.dialect? path = .error error) :
    invocation.collected read = .error error := by
  rw [Invocation.collected, activated_eq_ok_iff.mpr active]
  exact mapM_eq_error_iff.mpr ⟨before, path, after, place,
    fun earlier member => exists_checkAlone_iff.mpr (passed earlier member), failed⟩

/-- A run fails with a message exactly if that is its complaint. -/
theorem collected_eq_error_iff {message : Text} :
    (∃ error, invocation.collected around.read = .error error ∧
      error.message around.explain = message) ↔ Complaint around invocation message := by
  constructor
  · rintro ⟨error, failed, rfl⟩
    rw [Invocation.collected] at failed
    cases activated : invocation.activated around.read with
    | error refused =>
        rw [activated] at failed
        cases failed
        exact complaint_of_activated activated
    | ok linter =>
        rw [activated] at failed
        obtain ⟨before, path, after, place, passed, here⟩ := mapM_eq_error_iff.mp failed
        exact complaint_of_checkAlone (activated_eq_ok_iff.mp activated) place passed here
  · intro complaint
    cases complaint with
    | configUnreadable named failed =>
        exact ⟨.configUnreadable _ _, by
          simp [Invocation.collected, Invocation.activated, loadConfig, named, failed, bind,
            Except.bind], rfl⟩
    | configMalformed named found failed =>
        exact ⟨.configMalformed _ _, by
          simp [Invocation.collected, Invocation.activated, loadConfig, named, found, failed, bind,
            Except.bind], rfl⟩
    | configRefused loaded failed =>
        exact ⟨.configRefused _, by
          simp [Invocation.collected, Invocation.activated, loadConfig_eq_ok_iff.mpr loaded, failed,
            Except.mapError, bind, Except.bind], rfl⟩
    | @fileUnreadable linter _ _ path fault active place passed failed =>
        have here : checkAlone around.read linter invocation.dialect? path =
            .error (.fileUnreadable path fault) := by simp only [checkAlone, failed]
        exact ⟨_, collected_eq_error active place passed here, rfl⟩
    | @fileRefused linter _ _ path source error active place passed found failed =>
        have here : checkAlone around.read linter invocation.dialect? path =
            .error (.fileRefused path error) := by simp only [checkAlone, found, failed]
        exact ⟨_, collected_eq_error active place passed here, rfl⟩

end Collected

/-! ### What is printed -/

namespace FileReport

section Printing

variable {paint : Painter} {report : FileReport} {reports : List FileReport}

theorem total_eq_zero_iff :
    total reports = 0 ↔ ∀ report ∈ reports, report.diagnostics = [] := by
  rw [total, List.length_eq_zero_iff, List.flatMap_eq_nil_iff]

theorem flatMap_text_cases (paint : Painter) (reports : List FileReport) :
    reports.flatMap (text paint) = [] ∨
      ∃ lines, reports.flatMap (text paint) = lines ++ ['\n'] := by
  induction reports with
  | nil => exact .inl rfl
  | cons report rest ih =>
      rw [List.flatMap_cons]
      rcases ih with nothing | ⟨lines, ends⟩
      · rw [nothing, List.append_nil, text]
        split_ifs
        · exact .inl rfl
        · exact .inr ⟨_, rfl⟩
      · exact .inr ⟨report.text paint ++ lines, by rw [ends, List.append_assoc]⟩

theorem text_eq_nil_iff : report.text paint = [] ↔ report.diagnostics = [] := by
  rw [text]
  split_ifs with clean <;> simp_all

theorem textOf_eq_nil_iff :
    textOf paint reports = [] ↔ ∀ report ∈ reports, report.diagnostics = [] := by
  rw [textOf, List.append_eq_nil_iff, List.flatMap_eq_nil_iff]
  simp only [text_eq_nil_iff, and_iff_left_iff_imp]
  intro clean
  rw [total_eq_zero_iff.mpr clean, summary, if_pos rfl]

theorem exists_textOf_eq (some : ¬∀ report ∈ reports, report.diagnostics = []) :
    ∃ lines, textOf paint reports =
      lines ++ '\n' :: paint .redBold (countText (total reports)) ++ ['\n'] := by
  have nonzero : total reports ≠ 0 := fun zero => some (total_eq_zero_iff.mp zero)
  rcases flatMap_text_cases paint reports with nothing | ⟨lines, ends⟩
  · rw [List.flatMap_eq_nil_iff] at nothing
    exact absurd (fun report member => text_eq_nil_iff.mp (nothing report member)) some
  · refine ⟨lines, ?_⟩
    rw [textOf, ends, summary, if_neg nonzero]
    simp only [List.append_assoc, List.cons_append, List.nil_append]

theorem toJson_eq_ok_iff {written : Json} : report.toJson = .ok written ↔
    ∃ t, report.path = .ofText t ∧ written = entry t report.diagnostics := by
  rw [toJson]
  cases read : report.path.text? with
  | none => simp [RawText.text?_eq_none_iff.mp read]
  | some t =>
      have same := RawText.text?_eq_some_iff.mp read
      simp only [Except.ok.injEq]
      constructor
      · rintro rfl
        exact ⟨t, same, rfl⟩
      · rintro ⟨other, found, rfl⟩
        rw [RawText.text?_eq_some_iff.mpr found] at read
        cases read
        rfl

theorem toJson_eq_error_iff {path : RawText} : report.toJson = .error path ↔
    report.path = path ∧ ∀ t, path ≠ .ofText t := by
  rw [toJson, ← RawText.text?_eq_none_iff]
  cases read : report.path.text? with
  | none =>
      simp only [Except.error.injEq]
      exact ⟨fun same => ⟨same, same ▸ read⟩, And.left⟩
  | some t =>
      simp only [reduceCtorEq, false_iff, not_and]
      rintro rfl
      simp [read]

theorem exists_jsonOf_eq_ok (texts : ∀ report ∈ reports, ∃ t, report.path = .ofText t) :
    ∃ entries, jsonOf reports = .ok ((Json.array entries).pretty 0 ++ ['\n']) ∧
      List.Forall₂ (fun report written => ∃ t, report.path = .ofText t ∧
        written = entry t report.diagnostics) reports entries := by
  rw [jsonOf]
  cases all : reports.mapM toJson with
  | ok entries =>
      exact ⟨entries, rfl, (mapM_eq_ok_iff.mp all).imp fun _ _ => toJson_eq_ok_iff.mp⟩
  | error path =>
      obtain ⟨before, report, after, split, -, failed⟩ := mapM_eq_error_iff.mp all
      obtain ⟨rfl, noText⟩ := toJson_eq_error_iff.mp failed
      obtain ⟨t, same⟩ := texts report (split ▸ List.mem_append_right _ List.mem_cons_self)
      exact absurd same (noText t)

theorem exists_jsonOf_eq_error (noText : ∃ report ∈ reports, ∀ t, report.path ≠ .ofText t) :
    ∃ report ∈ reports, jsonOf reports = .error report.path ∧ ∀ t, report.path ≠ .ofText t := by
  rw [jsonOf]
  cases all : reports.mapM toJson with
  | ok entries =>
      obtain ⟨report, member, stray⟩ := noText
      obtain ⟨written, -, shown⟩ := exists_mem_of_forall₂ (mapM_eq_ok_iff.mp all).flip member
      obtain ⟨t, same, -⟩ := toJson_eq_ok_iff.mp shown
      exact absurd same (stray t)
  | error path =>
      obtain ⟨before, report, after, split, -, failed⟩ := mapM_eq_error_iff.mp all
      obtain ⟨rfl, stray⟩ := toJson_eq_error_iff.mp failed
      exact ⟨report, split ▸ List.mem_append_right _ List.mem_cons_self, rfl, stray⟩

end Printing

end FileReport

section Runs

variable {around : Surroundings} {arguments : List RawText} {invocation : Invocation}

theorem runCommand_of_complaint (accepted : Request.ofArguments arguments = .ok (.check invocation))
    (reporting : invocation.printConfig = false) {message : Text}
    (complaint : Complaint around invocation message) :
    ∃ logged, runCommand around arguments =
      .ok ⟨2, [], logged ++ invocation.errorLine around message⟩ := by
  obtain ⟨error, failed, rfl⟩ := collected_eq_error_iff.mpr complaint
  obtain ⟨logged, ran⟩ := runCommand_eq accepted reporting
  rw [failed] at ran
  exact ⟨logged, ran⟩

theorem runCommand_of_completes (accepted : Request.ofArguments arguments = .ok (.check invocation))
    (reporting : invocation.printConfig = false) {reports : List FileReport}
    (completes : Completes around.read invocation reports) :
    ∃ logged, runCommand around arguments = .ok (invocation.outcome around logged
      (invocation.report (around.outputPainter invocation) reports)) := by
  obtain ⟨logged, ran⟩ := runCommand_eq accepted reporting
  rw [collected_eq_ok_iff.mpr completes] at ran
  exact ⟨logged, ran⟩

theorem runCommand_of_pathUnwritable
    (accepted : Request.ofArguments arguments = .ok (.check invocation))
    (reporting : invocation.printConfig = false) {reports : List FileReport}
    (completes : Completes around.read invocation reports) (format : invocation.format = .json)
    (noText : ∃ report ∈ reports, ∀ t, report.path ≠ .ofText t) :
    ∃ report ∈ reports, (∀ t, report.path ≠ .ofText t) ∧ ∃ logged, runCommand around arguments =
      .ok ⟨2, [], logged ++
        invocation.errorLine around (around.explain (.pathUnwritable report.path))⟩ := by
  obtain ⟨report, member, refused, stray⟩ := FileReport.exists_jsonOf_eq_error noText
  obtain ⟨logged, ran⟩ := runCommand_of_completes accepted reporting completes
  rw [Invocation.report, format, FileReport.print, refused] at ran
  exact ⟨report, member, stray, logged, ran⟩

/-- A run reports all of its files or none. If the configuration cannot be read, parsed or
activated, or else a file cannot be read or linted, nothing is printed, and the last thing said is
the first such failure. Otherwise the diagnostics of each file are those of the file on its own. If
they are to be printed as text, or else every path is text, the status tells whether there are any; a
text is empty exactly if there are none and else ends with their number, and a JSON text is an array
with one entry for each file in order. -/
theorem runCommand_all_or_nothing
    (accepted : Request.ofArguments arguments = .ok (.check invocation))
    (reporting : invocation.printConfig = false) :
    (∀ message, Complaint around invocation message → ∃ logged,
      runCommand around arguments =
        .ok ⟨2, [], logged ++ invocation.errorLine around message⟩) ∧
    ((∃ message, Complaint around invocation message) ↔
      ¬∃ reports, Completes around.read invocation reports) ∧
    ∀ reports, Completes around.read invocation reports →
      (invocation.format = .json → ∀ path ∈ invocation.files, ∃ t, path = .ofText t) →
      ∃ output logged, runCommand around arguments =
          .ok ⟨if ∀ report ∈ reports, report.diagnostics = [] then 0 else 1, output, logged⟩ ∧
        (invocation.format = .text →
          output = FileReport.textOf (around.outputPainter invocation) reports ∧
          (output = [] ↔ ∀ report ∈ reports, report.diagnostics = []) ∧
          ((¬∀ report ∈ reports, report.diagnostics = []) →
            ∃ lines, output = lines ++ '\n' :: around.outputPainter invocation .redBold
              (decimal (reports.flatMap (·.diagnostics)).length ++
                if (reports.flatMap (·.diagnostics)).length = 1 then " problem".toList
                else " problems".toList) ++ ['\n'])) ∧
        (invocation.format = .json →
          ∃ entries written, output = written ++ ['\n'] ∧
            Json.Spelled (.array entries) written ∧
            List.Forall₂ (fun report entry => ∃ t, report.path = .ofText t ∧
              entry = FileReport.entry t report.diagnostics) reports entries) := by
  refine ⟨fun _ => runCommand_of_complaint accepted reporting, ?_, ?_⟩
  · simp only [← collected_eq_error_iff, ← collected_eq_ok_iff]
    cases invocation.collected around.read <;> simp
  · intro reports completes texts
    obtain ⟨logged, ran⟩ := runCommand_of_completes accepted reporting completes
    rw [Invocation.report] at ran
    cases format : invocation.format with
    | text =>
        rw [format] at ran
        refine ⟨FileReport.textOf (around.outputPainter invocation) reports, logged, ?_, ?_, nofun⟩
        · rw [ran]
          simp only [← FileReport.total_eq_zero_iff]
          rfl
        · exact fun _ => ⟨rfl, FileReport.textOf_eq_nil_iff, FileReport.exists_textOf_eq⟩
    | json =>
        rw [format] at ran
        have named : ∀ report ∈ reports, ∃ t, report.path = .ofText t := by
          obtain ⟨linter, -, linted⟩ := completes
          intro report member
          obtain ⟨path, inside, rfl, -⟩ := exists_mem_of_forall₂ linted member
          exact texts format _ inside
        obtain ⟨entries, written, shown⟩ := FileReport.exists_jsonOf_eq_ok named
        refine ⟨_, logged, ?_, nofun, fun _ => ⟨entries, _, rfl, Json.spelled_pretty _ 0, shown⟩⟩
        rw [ran, FileReport.print, written]
        simp only [← FileReport.total_eq_zero_iff]
        rfl

end Runs

def twoClasses : Text := ".a .b\x7b\x7d"

def oneFile : FileReader := fun path => if path = "a.css" then .ok twoClasses else .error .missing

/-- A file that is missing, between two that are not. -/
def missingBetween : List RawText := ["a.css", "b.css", "a.css"]

def missingMessage : Text := "failed to read b.css: No such file or directory (os error 2)"

def twice (format : ReportFormat) : Invocation :=
  { files := ["a.css", "a.css"], format? := some format }

theorem exists_lints_oneFile : ∃ linter, Activates oneFile {} linter ∧
    ∃ diagnostics, Lints oneFile linter none "a.css" diagnostics ∧ diagnostics ≠ [] := by
  have linted : (match (Linter.ofConfig .recommended).run.answer Journal.empty with
      | .ok linter => (linter.lintAlone .css twoClasses).map List.isEmpty
      | .error _ => .ok true) = .ok false := by decide +kernel
  cases built : (Linter.ofConfig .recommended).run.answer Journal.empty with
  | error error => simp [built] at linted
  | ok linter =>
      simp only [built] at linted
      obtain ⟨diagnostics, alone, some⟩ := exists_of_map_eq_ok linted
      refine ⟨linter, ⟨.recommended, .recommended, built⟩, diagnostics, ⟨_, rfl, alone⟩, ?_⟩
      rintro rfl
      cases some

/-- A file is reported as often as it is listed, but not at all if another is missing. -/
theorem runCommand_all_or_nothing_missing :
    Request.ofArguments missingBetween = .ok (.check { files := missingBetween }) ∧
      Complaint oneFile { files := missingBetween } missingMessage ∧
      (∃ logged, runCommand oneFile missingBetween =
        .ok ⟨2, [], logged ++ ("error: " ++ missingMessage ++ ['\n'])⟩) ∧
      Request.ofArguments ["--format", "json", "a.css", "a.css"] = .ok (.check (twice .json)) ∧
      ∃ reports, Completes oneFile (twice .json) reports ∧ ∃ entries written logged,
        runCommand oneFile ["--format", "json", "a.css", "a.css"] =
          .ok ⟨1, written ++ ['\n'], logged⟩ ∧
        Json.Spelled (.array entries) written ∧ entries.length = 2 := by
  have accepted : Request.ofArguments missingBetween =
      .ok (.check { files := missingBetween }) := by decide +kernel
  have acceptedTwice : Request.ofArguments ["--format", "json", "a.css", "a.css"] =
      .ok (.check (twice .json)) := by decide +kernel
  obtain ⟨linter, active, diagnostics, lints, some⟩ := exists_lints_oneFile
  have complaint : Complaint oneFile { files := missingBetween } missingMessage := by
    have message : missingMessage =
        "failed to read " ++ RawText.display "b.css" ++ ": " ++ ReadFault.missing.message := by
      decide +kernel
    have place : missingBetween = ["a.css"] ++ "b.css" :: ["a.css"] := rfl
    rw [message]
    exact .fileUnreadable active place (List.forall_mem_singleton.mpr ⟨diagnostics, lints⟩) rfl
  have completes : Completes oneFile (twice .json)
      [⟨"a.css", diagnostics⟩, ⟨"a.css", diagnostics⟩] :=
    ⟨linter, active, .cons ⟨rfl, lints⟩ (.cons ⟨rfl, lints⟩ .nil)⟩
  have texts : ∀ path ∈ (twice .json).files, ∃ t, path = .ofText t :=
    List.forall_mem_cons.mpr ⟨⟨_, rfl⟩, List.forall_mem_singleton.mpr ⟨_, rfl⟩⟩
  have fails := (runCommand_all_or_nothing accepted rfl).1 _ complaint
  obtain ⟨output, logged, ran, -, listed⟩ :=
    (@runCommand_all_or_nothing oneFile _ _ acceptedTwice rfl).2.2 _ completes fun _ => texts
  obtain ⟨entries, written, rfl, spelled, shown⟩ := listed rfl
  rw [if_neg fun clean => some (clean _ List.mem_cons_self)] at ran
  exact ⟨accepted, complaint, fails, acceptedTwice, _, completes, entries, written, logged, ran,
    spelled, shown.length_eq.symm⟩

def cleanFiles : FileReader := fun _ => .ok ".search-form \x7b\x7d"

/-- The name of a style sheet with a byte in front that no character has. -/
def strayPath : RawText := ⟨0xFF :: RawText.bytes ".css"⟩

def listStray : Invocation := { files := ["a.css", strayPath], format? := some .json }

/-- A request for the version is answered although a file is missing. And where every file can be
linted and is clean, one whose path is no text is not reported in JSON, and nor is any other. -/
theorem runCommand_version_and_strayPath :
    (Request.ofArguments ["-V", "missing.css"] = .ok .version ∧
      oneFile "missing.css" = .error .missing ∧
      runCommand oneFile ["-V", "missing.css"] = .ok ⟨0, "rscss 0.1.0\n".toList, []⟩) ∧
    Request.ofArguments ["--format", "json", "a.css", strayPath] = .ok (.check listStray) ∧
      (∃ reports, Completes cleanFiles listStray reports ∧
        ∀ report ∈ reports, report.diagnostics = []) ∧
      ∃ errors, runCommand cleanFiles ["--format", "json", "a.css", strayPath] =
        .ok ⟨2, [], errors⟩ := by
  have version : Request.ofArguments ["-V", "missing.css"] = .ok .version := by decide +kernel
  have accepted : Request.ofArguments ["--format", "json", "a.css", strayPath] =
      .ok (.check listStray) := by decide +kernel
  have clean : (match (Linter.ofConfig .recommended).run.answer Journal.empty with
      | .ok linter => (linter.lintAlone .css ".search-form \x7b\x7d").map List.isEmpty
      | .error _ => .ok false) = .ok true := by decide +kernel
  have stray : ∀ t, strayPath ≠ .ofText t :=
    RawText.text?_eq_none_iff.mp (by decide +kernel)
  refine ⟨⟨version, by decide +kernel, by rw [runCommand, version]; rfl⟩, accepted, ?_⟩
  cases built : (Linter.ofConfig .recommended).run.answer Journal.empty with
  | error error => simp [built] at clean
  | ok linter =>
      simp only [built] at clean
      obtain ⟨diagnostics, alone, empty⟩ := exists_of_map_eq_ok clean
      obtain rfl := List.isEmpty_iff.mp empty
      have lints (path : RawText) (css : Dialect.ofPath path = .css) :
          Lints cleanFiles linter none path [] :=
        ⟨_, rfl, by rw [Option.getD_none, css]; exact alone⟩
      have completes : Completes cleanFiles listStray [⟨"a.css", []⟩, ⟨strayPath, []⟩] :=
        ⟨linter, ⟨.recommended, .recommended, built⟩,
          .cons ⟨rfl, lints _ (by decide +kernel)⟩
            (.cons ⟨rfl, lints _ (by decide +kernel)⟩ .nil)⟩
      obtain ⟨report, -, -, logged, ran⟩ := @runCommand_of_pathUnwritable cleanFiles _ _ accepted rfl
        _ completes rfl ⟨_, List.mem_cons_of_mem _ List.mem_cons_self, stray⟩
      exact ⟨⟨_, completes, by simp⟩, _, ran⟩

end ClassLint
