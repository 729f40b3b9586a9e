import ClassLint.Proofs.Activation
import ClassLint.Proofs.Linting

/-! Rules that know nothing of each other. Every rule reads the whole stylesheet, whatever it finds
and wherever it stops, so all of them fail alike; and what several rules report is what each reports
alone, one after the other. -/

namespace ClassLint

open Journaled

/-- The error is that of the first style rule in the stylesheet that cannot be read where it
stands. -/
def Sheet.FailsWith (sheet : Sheet) (error : SelectorError) : Prop :=
  ∃ before placement after, sheet.placements = before ++ placement :: after ∧
    (∀ earlier ∈ before, ∃ selectors, standaloneSelectors earlier = .ok selectors) ∧
    standaloneSelectors placement = .error error

theorem unreadable?_eq_some_iff (placement : Placement) (error : SelectorError) :
    unreadable? placement = some error ↔ standaloneSelectors placement = .error error := by
  rw [unreadable?]
  cases standaloneSelectors placement <;> simp

theorem unreadable?_eq_none_iff (placement : Placement) :
    unreadable? placement = none ↔ ∃ selectors, standaloneSelectors placement = .ok selectors := by
  rw [unreadable?]
  cases standaloneSelectors placement <;> simp

theorem failsWith_iff (sheet : Sheet) (error : SelectorError) :
    sheet.FailsWith error ↔ sheet.placements.findSome? unreadable? = some error := by
  rw [List.findSome?_eq_some_iff]
  simp only [Sheet.FailsWith, unreadable?_eq_some_iff, unreadable?_eq_none_iff]
  constructor
  · rintro ⟨before, placement, after, whole, readable, unread⟩
    exact ⟨before, placement, after, whole, unread, readable⟩
  · rintro ⟨before, placement, after, whole, unread, readable⟩
    exact ⟨before, placement, after, whole, readable, unread⟩

theorem reportAll_of_unreadable {rules : List Rule} {placements : List Placement}
    {error : SelectorError} (active : rules ≠ [])
    (unread : placements.findSome? unreadable? = some error) :
    reportAll rules placements = .error error := by
  cases rules with
  | nil => exact absurd rfl active
  | cons rule rest =>
      rw [reportAll_cons, Rule.report, unread]
      rfl

theorem reportAll_of_readable (rules : List Rule) {placements : List Placement}
    (readable : placements.findSome? unreadable? = none) :
    reportAll rules placements =
      .ok (rules.flatMap fun rule => placements.filterMap rule.diagnosisAt?) := by
  induction rules with
  | nil => rfl
  | cons rule rest ih =>
      rw [reportAll_cons, ih, Rule.report, readable]
      rfl

theorem reportAll_eq_error_iff {rules : List Rule} (active : rules ≠ [])
    (placements : List Placement) (error : SelectorError) :
    reportAll rules placements = .error error ↔
      placements.findSome? unreadable? = some error := by
  constructor
  · intro failed
    cases unread : placements.findSome? unreadable? with
    | some earlier =>
        rw [reportAll_of_unreadable active unread] at failed
        cases failed
        rfl
    | none =>
        rw [reportAll_of_readable rules unread] at failed
        cases failed
  · exact reportAll_of_unreadable active

theorem exists_of_reportAll_cons {rule : Rule} {rest : List Rule} {placements : List Placement}
    {diagnostics : List Diagnostic}
    (reported : reportAll (rule :: rest) placements = .ok diagnostics) :
    ∃ first more, reportAll [rule] placements = .ok first ∧
      reportAll rest placements = .ok more ∧ diagnostics = first ++ more := by
  cases unread : placements.findSome? unreadable? with
  | some error =>
      rw [reportAll_of_unreadable (List.cons_ne_nil rule rest) unread] at reported
      cases reported
  | none =>
      rw [reportAll_of_readable _ unread] at reported
      cases reported
      refine ⟨_, _, reportAll_of_readable [rule] unread, reportAll_of_readable rest unread, ?_⟩
      rw [← List.flatMap_append, List.singleton_append]

/-- Whether and how linting fails depends on the stylesheet alone. Where it does not fail, both
rules together report what the one and then the other reports alone. -/
theorem lint_independent (sheet : Sheet) :
    (∀ (linter other : Linter) (journal later : Journal) (error : SelectorError),
      linter.rules ≠ [] → other.rules ≠ [] →
      ((linter.lint sheet).run.answer journal = .error error ↔
        (other.lint sheet).run.answer later = .error error) ∧
      ((linter.lint sheet).run.answer journal = .error error ↔ sheet.FailsWith error)) ∧
    ∀ (config : Config) (linter : Linter) (start journal later : Journal)
      (diagnostics : List Diagnostic),
      config.Ordered → (Linter.ofConfig config).run.answer start = .ok linter →
      (∀ name : RuleName, name ∈ linter.rules.map Rule.name) →
      (linter.lint sheet).run.answer journal = .ok diagnostics →
      ∃ options format descendants, linter.rules = [.classFormat options, .noDescendantCombinator] ∧
        ((Linter.mk [.classFormat options]).lint sheet).run.answer later = .ok format ∧
        ((Linter.mk [.noDescendantCombinator]).lint sheet).run.answer later = .ok descendants ∧
        diagnostics = format ++ descendants := by
  constructor
  · intro linter other journal later error active activeOther
    have fails := reportAll_eq_error_iff active sheet.placements error
    have otherFails := reportAll_eq_error_iff activeOther sheet.placements error
    rw [answers_lint linter sheet journal, answers_lint other sheet later, failsWith_iff]
    exact ⟨fails.trans otherFails.symm, fails⟩
  · intro config linter start journal later diagnostics ordered built both linted
    obtain ⟨options, rules⟩ := exists_rules_eq ordered (activeRules_of_ofConfig built) both
    rw [answers_lint linter sheet journal, rules] at linted
    obtain ⟨format, descendants, first, second, whole⟩ := exists_of_reportAll_cons linted
    refine ⟨options, format, descendants, rules, ?_, ?_, whole⟩
    · rw [answers_lint _ sheet later]
      exact first
    · rw [answers_lint _ sheet later]
      exact second

/-- A stylesheet with two style rules that cannot be read, and the recommended rules at a style rule
that both of them report. -/
theorem lint_independent_recommended :
    Sheet.FailsWith [.rule ⟨".my-tool", .start⟩ [.rule ⟨"&..x", .start⟩ []], .rule ⟨"#", .start⟩ []]
      ⟨.expectedName '.', ".my-tool..x"⟩ ∧
    ∃ options format descendants,
      ((Linter.mk [.classFormat options]).lint
        [.rule ⟨".my-tool", .start⟩ [.rule ⟨".Big", .start⟩ []]]).run.answer .empty = .ok format ∧
      ((Linter.mk [.noDescendantCombinator]).lint
        [.rule ⟨".my-tool", .start⟩ [.rule ⟨".Big", .start⟩ []]]).run.answer .empty =
          .ok descendants ∧
      (format ++ descendants).map Diagnostic.message =
        ["Invalid element name: '.Big'".toList,
          "Descendant combinator not allowed: '.my-tool .Big'".toList] := by
  constructor
  · apply ((lint_independent _).1 ⟨[.noDescendantCombinator]⟩ ⟨[.noDescendantCombinator]⟩
      .empty .empty _ (by simp) (by simp)).2.mp
    decide +kernel
  · have run : ((Linter.ofConfig .recommended).run.answer .empty).map (fun linter =>
        (linter.rules.map Rule.name, ((linter.lint
          [.rule ⟨".my-tool", .start⟩ [.rule ⟨".Big", .start⟩ []]]).run.answer .empty).map
            (List.map Diagnostic.message))) =
        .ok ([.classFormat, .noDescendantCombinator],
          .ok ["Invalid element name: '.Big'".toList,
            "Descendant combinator not allowed: '.my-tool .Big'".toList]) := by decide +kernel
    obtain ⟨linter, built, observed⟩ := exists_of_map_eq_ok run
    obtain ⟨names, linted⟩ := Prod.mk.inj observed
    obtain ⟨diagnostics, found, messages⟩ := exists_of_map_eq_ok linted
    have ordered : Config.recommended.Ordered :=
      Config.ordered_withRule (Config.ordered_withRule Config.ordered_empty _ _) _ _
    have both : ∀ name : RuleName, name ∈ linter.rules.map Rule.name := by
      intro name
      rw [names]
      cases name <;> decide
    obtain ⟨options, format, descendants, -, first, second, rfl⟩ :=
      (lint_independent _).2 .recommended linter .empty .empty .empty diagnostics ordered built
        both found
    exact ⟨options, format, descendants, first, second, messages⟩

end ClassLint
