import ClassLint.Linter
import ClassLint.Proofs.Diagnosis

/-! Linting as a whole. The rules run one after the other over the same placements, so a stylesheet
counts only by the texts its style rules stand for. -/

namespace ClassLint

open Journaled

def reportAll (rules : List Rule) (placements : List Placement) :
    Except SelectorError (List Diagnostic) :=
  (rules.mapM (Rule.report · placements)).map List.flatten

theorem reportAll_cons (rule : Rule) (rest : List Rule) (placements : List Placement) :
    reportAll (rule :: rest) placements = do
      let first ← rule.report placements
      let more ← reportAll rest placements
      return first ++ more := by
  rw [reportAll, reportAll, List.mapM_cons]
  cases rule.report placements with
  | error error => rfl
  | ok first => cases rest.mapM (Rule.report · placements) <;> rfl

theorem answers_checkAll (sheet : Sheet) (rules : List Rule) :
    Answers (Linter.checkAll sheet rules).run (reportAll rules sheet.placements) := by
  induction rules with
  | nil => exact answers_pure _
  | cons rule rest ih =>
      rw [reportAll_cons]
      apply answers_run_bind (answers_check rule sheet)
      intro first
      apply answers_run_bind ih
      intro more
      exact answers_pure _

theorem answers_lint (linter : Linter) (sheet : Sheet) :
    Answers (linter.lint sheet).run (reportAll linter.rules sheet.placements) :=
  answers_checkAll sheet linter.rules

/-- The stylesheet of the same style rules without any nesting: each stands at the top with the text
it stood for. -/
def Sheet.flattened (sheet : Sheet) : Sheet :=
  sheet.placements.map fun placement =>
    .rule ⟨standaloneText placement, placement.1.position⟩ []

def flatPlacement (placement : Placement) : Placement :=
  (⟨standaloneText placement, placement.1.position⟩, [])

theorem placements_flattened (sheet : Sheet) :
    sheet.flattened.placements = sheet.placements.map flatPlacement := by
  rw [Sheet.flattened, Sheet.placements]
  induction sheet.placements with
  | nil => rfl
  | cons placement rest ih =>
      rw [List.map_cons, List.map_cons, Node.placementsIn, ih]
      rfl

theorem standaloneText_flatPlacement (placement : Placement) :
    standaloneText (flatPlacement placement) = standaloneText placement := by
  rw [standaloneText, answers_resolveFirst _ _ .empty]
  rfl

theorem standaloneSelectors_flatPlacement (placement : Placement) :
    standaloneSelectors (flatPlacement placement) = standaloneSelectors placement := by
  rw [standaloneSelectors, standaloneText_flatPlacement, standaloneSelectors]

/-- What a diagnostic says beside the selector as written. -/
def Diagnostic.gist (diagnostic : Diagnostic) : Text × Text × Position :=
  (diagnostic.ruleName, diagnostic.message, diagnostic.position)

theorem gist_diagnosisAt?_flatPlacement (rule : Rule) (placement : Placement) :
    (rule.diagnosisAt? (flatPlacement placement)).map Diagnostic.gist =
      (rule.diagnosisAt? placement).map Diagnostic.gist := by
  rw [Rule.diagnosisAt?, Rule.diagnosisAt?, standaloneSelectors_flatPlacement]
  cases (standaloneSelectors placement).toOption with
  | none => rfl
  | some selectors =>
      simp only [Option.bind_some, Rule.diagnosis?, Option.map_bind, Function.comp_def,
        Option.map_map]
      rfl

theorem gist_report_flatPlacement (rule : Rule) (placements : List Placement) :
    (rule.report (placements.map flatPlacement)).map (List.map Diagnostic.gist) =
      (rule.report placements).map (List.map Diagnostic.gist) := by
  have unread : unreadable? ∘ flatPlacement = unreadable? := by
    funext placement
    simp only [Function.comp, unreadable?, standaloneSelectors_flatPlacement]
  rw [Rule.report, Rule.report, List.findSome?_map, unread]
  cases placements.findSome? unreadable? with
  | some error => rfl
  | none =>
      apply congrArg Except.ok
      rw [List.filterMap_map, List.map_filterMap, List.map_filterMap]
      apply congrArg (List.filterMap · placements)
      funext placement
      exact gist_diagnosisAt?_flatPlacement rule placement

theorem gist_append (first more : Except SelectorError (List Diagnostic)) :
    (do return (← first) ++ (← more)).map (List.map Diagnostic.gist) = do
      return (← first.map (List.map Diagnostic.gist)) ++
        (← more.map (List.map Diagnostic.gist)) := by
  cases first with
  | error error => rfl
  | ok diagnostics =>
      cases more with
      | error error => rfl
      | ok others => exact congrArg Except.ok List.map_append

theorem gist_reportAll_flatPlacement (rules : List Rule) (placements : List Placement) :
    (reportAll rules (placements.map flatPlacement)).map (List.map Diagnostic.gist) =
      (reportAll rules placements).map (List.map Diagnostic.gist) := by
  induction rules with
  | nil => rfl
  | cons rule rest ih =>
      rw [reportAll_cons, reportAll_cons, gist_append, gist_append,
        gist_report_flatPlacement rule placements, ih]

/-- Nesting adds nothing to what is found: a stylesheet and its flattened form fail with the same
error, or have the same diagnostics apart from the selectors as written. -/
theorem lint_flattened (linter : Linter) (sheet : Sheet) (journal later : Journal) :
    ((linter.lint sheet).run.answer journal).map
        (List.map fun d => (d.ruleName, d.message, d.position)) =
      ((linter.lint sheet.flattened).run.answer later).map
        (List.map fun d => (d.ruleName, d.message, d.position)) := by
  rw [answers_lint linter sheet journal, answers_lint linter sheet.flattened later,
    placements_flattened]
  exact (gist_reportAll_flatPlacement linter.rules sheet.placements).symm

end ClassLint
