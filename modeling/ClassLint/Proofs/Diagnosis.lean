import ClassLint.Rule
import ClassLint.Proofs.Traversal

/-! What a lint rule reports. Each style rule is flattened where it stands, and the first of its
selectors that triggers the lint rule decides alone whether there is a diagnostic. -/

namespace ClassLint

open Journaled Walk

/-- The text that a style rule stands for below its ancestors: the first resolution of its selector,
or the selector as written where there is none. -/
def standaloneText (placement : Placement) : Text :=
  ((resolveFirst placement.1.selector (.ofAncestors placement.2)).answer .empty).getD
    placement.1.selector

theorem standaloneText_of_nearest {placement : Placement} {journal : Journal} {parent : Text}
    {others : List Text}
    (nearest : nearestResolutions journal placement.2 = some (parent :: others)) :
    standaloneText placement = placeBelow placement.1.selector parent := by
  rw [standaloneText, answers_resolveFirst _ _ .empty, resolutions_eq_nearest _ _ journal, nearest]
  rfl

def standaloneSelectors (placement : Placement) : Except SelectorError (List Selector) :=
  Selector.parseList (standaloneText placement)

/-- The error of a style rule whose flattened text is no list of selectors. -/
def unreadable? (placement : Placement) : Option SelectorError :=
  match standaloneSelectors placement with
  | .ok _ => none
  | .error error => some error

namespace Rule

/-- Whether a selector ends the search through those of a style rule. -/
def triggeredBy : Rule → Selector → Bool
  | .classFormat options, selector => judge options selector ≠ .accept
  | .noDescendantCombinator, selector => selector.hasDescendant

/-- What is said about the selector that ended the search. One that is exempt is passed over in
silence. -/
def complaint? : Rule → Selector → Option Text
  | .classFormat options, selector =>
    match judge options selector with
    | .reject violation => some violation.message
    | .accept | .exempt => none
  | .noDescendantCombinator, selector => some (descendantMessage selector)

/-- At most one diagnostic about a style rule with those selectors. -/
def diagnosis? (rule : Rule) (style : StyleRule) (selectors : List Selector) : Option Diagnostic :=
  (selectors.find? rule.triggeredBy).bind fun selector =>
    (rule.complaint? selector).map (.about rule.name.text · style)

def diagnosisAt? (rule : Rule) (placement : Placement) : Option Diagnostic :=
  (standaloneSelectors placement).toOption.bind (rule.diagnosis? placement.1)

/-- The first unreadable style rule is the whole answer; without one, all diagnoses in order. -/
def report (rule : Rule) (placements : List Placement) :
    Except SelectorError (List Diagnostic) :=
  match placements.findSome? unreadable? with
  | some error => .error error
  | none => .ok (placements.filterMap rule.diagnosisAt?)

def visitor : Rule → Visitor Findings SelectorError
  | .classFormat options => visitClassFormat options
  | .noDescendantCombinator => visitDescendants

end Rule

theorem report_cons (rule : Rule) (placement : Placement) (rest : List Placement) :
    rule.report (placement :: rest) = do
      let selectors ← standaloneSelectors placement
      let diagnostics ← rule.report rest
      return (rule.diagnosis? placement.1 selectors).toList ++ diagnostics := by
  cases read : standaloneSelectors placement with
  | error error =>
      simp only [Rule.report, List.findSome?_cons, unreadable?, read]
      rfl
  | ok selectors =>
      have diagnosed : rule.diagnosisAt? placement = rule.diagnosis? placement.1 selectors := by
        rw [Rule.diagnosisAt?, read]
        rfl
      simp only [Rule.report, List.findSome?_cons, unreadable?, read, List.filterMap_cons,
        diagnosed]
      cases rest.findSome? unreadable? with
      | some error => rfl
      | none =>
          change _ = Except.ok _
          cases rule.diagnosis? placement.1 selectors <;> rfl

theorem visitor_of_trigger (rule : Rule) (style : StyleRule) (selector : Selector)
    (triggered : rule.triggeredBy selector = true) :
    rule.visitor style selector = do
      modifyThe Findings (Findings.visit rule.name style (rule.complaint? selector))
      return .stop := by
  cases rule with
  | classFormat options =>
      have judged : judge options selector ≠ .accept := of_decide_eq_true triggered
      simp only [Rule.visitor, visitClassFormat, Rule.complaint?]
      cases verdict : judge options selector with
      | accept => exact absurd verdict judged
      | exempt => rfl
      | reject violation => rfl
  | noDescendantCombinator =>
      have found : selector.hasDescendant = true := triggered
      simp only [Rule.visitor, visitDescendants, found, if_true]
      rfl

theorem visitor_of_no_trigger (rule : Rule) (style : StyleRule) (selector : Selector)
    (passed : rule.triggeredBy selector = false) :
    rule.visitor style selector = do
      modifyThe Findings (Findings.visit rule.name style none)
      return .proceed := by
  cases rule with
  | classFormat options =>
      have accepted : judge options selector = .accept :=
        Decidable.not_not.mp (of_decide_eq_false passed)
      simp only [Rule.visitor, visitClassFormat, accepted]
      rfl
  | noDescendantCombinator =>
      have absent : selector.hasDescendant = false := passed
      simp only [Rule.visitor, visitDescendants, absent, Bool.false_eq_true, if_false]
      rfl

theorem diagnostics_visit (name : RuleName) (style : StyleRule) (message? : Option Text)
    (findings : Findings) :
    (findings.visit name style message?).diagnostics =
      findings.diagnostics ++ (message?.map (.about name.text · style)).toList := by
  cases message? with
  | none => simp [Findings.visit, Findings.diagnostics]
  | some message => simp [Findings.visit, Findings.diagnostics]

theorem visitSelectors_ends (rule : Rule) (style : StyleRule) (selectors : List Selector)
    (findings : Findings) :
    ∃ final, Ends (visitSelectors rule.visitor style selectors) findings (.ok ()) final ∧
      final.diagnostics = findings.diagnostics ++ (rule.diagnosis? style selectors).toList := by
  induction selectors generalizing findings with
  | nil => exact ⟨findings, ends_pure () findings, by simp [Rule.diagnosis?]⟩
  | cons selector rest ih =>
      have recorded : Answers (Journal.record (.visited style.selector selector.text)) () :=
        fun _ => rfl
      rw [visitSelectors]
      cases triggered : rule.triggeredBy selector with
      | true =>
          rw [visitor_of_trigger rule style selector triggered]
          refine ⟨_, ends_bind (ends_lift recorded findings)
            (ends_bind (ends_bind (ends_modify _ _) (ends_pure _ _)) (ends_pure () _)), ?_⟩
          rw [diagnostics_visit, Rule.diagnosis?, List.find?_cons_of_pos triggered]
          rfl
      | false =>
          rw [visitor_of_no_trigger rule style selector triggered]
          obtain ⟨final, ended, diagnosed⟩ := ih (findings.visit rule.name style none)
          refine ⟨final, ends_bind (ends_lift recorded findings)
            (ends_bind (ends_bind (ends_modify _ _) (ends_pure _ _)) ended), ?_⟩
          rw [diagnosed, diagnostics_visit, Rule.diagnosis?, Rule.diagnosis?,
            List.find?_cons_of_neg (by simp [triggered])]
          simp

theorem answers_flatten (placement : Placement) :
    Answers (flatten placement.1 (.ofAncestors placement.2)) (standaloneSelectors placement) := by
  have first := answers_resolveFirst placement.1.selector (.ofAncestors placement.2)
  rw [standaloneSelectors, standaloneText, first .empty]
  exact answers_bind first (answers_pure _)

theorem visitPlacement_ends_of_error {σ ε : Type} (raise : SelectorError → ε) (visit : Visitor σ ε)
    (placement : Placement) (state : σ) (error : SelectorError)
    (unread : standaloneSelectors placement = .error error) :
    Ends (visitPlacement raise visit placement) state (.error (raise error)) state := by
  have flat := answers_flatten placement
  rw [unread] at flat
  exact ends_bind (ends_lift flat state) (answers_pure _)

theorem visitPlacement_ends (rule : Rule) (placement : Placement) (findings : Findings)
    (selectors : List Selector) (read : standaloneSelectors placement = .ok selectors) :
    ∃ final, Ends (visitPlacement id rule.visitor placement) findings (.ok ()) final ∧
      final.diagnostics =
        findings.diagnostics ++ (rule.diagnosis? placement.1 selectors).toList := by
  have flat := answers_flatten placement
  rw [read] at flat
  obtain ⟨final, ended, diagnosed⟩ := visitSelectors_ends rule placement.1 selectors findings
  exact ⟨final, ends_bind (ends_lift flat findings) ended, diagnosed⟩

/-- The whole run: it fails with the first unreadable style rule, and otherwise it has added the
diagnoses of all of them, in order. -/
theorem visits_end (rule : Rule) (placements : List Placement) (findings : Findings) :
    ∃ final, Ends (forM placements (visitPlacement id rule.visitor)) findings
        ((rule.report placements).map fun _ => ()) final ∧
      ∀ diagnostics, rule.report placements = .ok diagnostics →
        final.diagnostics = findings.diagnostics ++ diagnostics := by
  induction placements generalizing findings with
  | nil =>
      refine ⟨findings, ends_pure () findings, ?_⟩
      rintro diagnostics ⟨⟩
      exact (List.append_nil _).symm
  | cons placement rest ih =>
      rw [List.forM_cons, report_cons]
      cases read : standaloneSelectors placement with
      | error error =>
          have ended := visitPlacement_ends_of_error id rule.visitor placement findings error read
          refine ⟨findings, ends_bind_of_error _ ended, ?_⟩
          rintro diagnostics ⟨⟩
      | ok selectors =>
          obtain ⟨middle, visited, diagnosed⟩ :=
            visitPlacement_ends rule placement findings selectors read
          obtain ⟨final, ended, collected⟩ := ih middle
          refine ⟨final, ?_⟩
          cases found : rule.report rest with
          | error error =>
              rw [found] at ended
              refine ⟨ends_bind visited ended, ?_⟩
              rintro diagnostics ⟨⟩
          | ok more =>
              rw [found] at ended
              refine ⟨ends_bind visited ended, ?_⟩
              rintro diagnostics ⟨⟩
              rw [collected more found, diagnosed, List.append_assoc]

theorem answers_collect (rule : Rule) (sheet : Sheet) :
    ∃ findings, Answers (collect rule.visitor sheet).run
        ((rule.report sheet.placements).map fun _ => findings) ∧
      ∀ diagnostics, rule.report sheet.placements = .ok diagnostics →
        findings.diagnostics = diagnostics := by
  obtain ⟨findings, ended, collected⟩ := visits_end rule sheet.placements .start
  rw [← walk_eq_forM] at ended
  refine ⟨findings, ?_, collected⟩
  rw [collect, ExceptT.run_bind]
  apply answers_bind (answers_map Except.ok ended)
  cases rule.report sheet.placements <;> exact answers_pure _

theorem answers_diagnostics (rule : Rule) (sheet : Sheet) (note : Findings → Journaled Unit) :
    Answers (do
      let findings ← collect rule.visitor sheet
      note findings
      return findings.diagnostics : Checked (List Diagnostic)).run
      (rule.report sheet.placements) := by
  obtain ⟨findings, collected, diagnosed⟩ := answers_collect rule sheet
  have noted (others : Findings) :
      Answers (do note others; return others.diagnostics : Checked (List Diagnostic)).run
        (.ok others.diagnostics) :=
    answers_after _ fun _ => answers_pure _
  have answered := answers_run_bind collected noted
  cases reported : rule.report sheet.placements with
  | error error => rwa [reported] at answered
  | ok diagnostics =>
      rw [reported] at answered
      rwa [← diagnosed diagnostics reported]

theorem answers_check (rule : Rule) (sheet : Sheet) :
    Answers (rule.check sheet).run (rule.report sheet.placements) := by
  cases rule with
  | classFormat options => exact answers_diagnostics (.classFormat options) sheet _
  | noDescendantCombinator => exact answers_diagnostics .noDescendantCombinator sheet _

theorem report_of_diagnoses (rule : Rule) (placements : List Placement)
    {diagnose : Placement → Option Diagnostic}
    (same : ∀ placement, rule.diagnosisAt? placement = diagnose placement) :
    rule.report placements =
      match placements.findSome? unreadable? with
      | some error => .error error
      | none => .ok (placements.filterMap diagnose) := by
  rw [Rule.report, funext same]

theorem combinator?_eq_some_iff (token : Token) (combinator : Combinator) :
    token.combinator? = some combinator ↔ token.kind = .combinator combinator := by
  unfold Token.combinator?
  cases token.kind <;> simp

theorem hasDescendant_eq_any_kind (selector : Selector) :
    selector.hasDescendant =
      selector.tokens.any fun token => token.kind = .combinator .descendant := by
  simp only [Selector.hasDescendant, combinator?_eq_some_iff]

/-- A check says of every style rule, in order and below its own ancestors, what the first selector
that triggers it calls for, and it fails only for the first style rule that cannot be read. -/
theorem check_declarative (sheet : Sheet) (journal : Journal) :
    (∀ options : ResolvedOptions,
      ((Rule.classFormat options).check sheet).run.answer journal =
        match sheet.placements.findSome? unreadable? with
        | some error => .error error
        | none => .ok (sheet.placements.filterMap fun placement => do
          let selectors ← (standaloneSelectors placement).toOption
          let selector ← selectors.find? fun selector => judge options selector ≠ .accept
          match judge options selector with
          | .reject violation => some ⟨"rscss/class-format".toList, violation.message,
              placement.1.selector, placement.1.position⟩
          | .accept | .exempt => none)) ∧
    (Rule.noDescendantCombinator.check sheet).run.answer journal =
      match sheet.placements.findSome? unreadable? with
      | some error => .error error
      | none => .ok (sheet.placements.filterMap fun placement => do
        let selectors ← (standaloneSelectors placement).toOption
        let selector ← selectors.find? fun selector =>
          selector.tokens.any fun token => token.kind = .combinator .descendant
        some ⟨"rscss/no-descendant-combinator".toList,
          "Descendant combinator not allowed: ".toList ++ cited selector.text,
          placement.1.selector, placement.1.position⟩) := by
  constructor
  · intro options
    rw [answers_check (.classFormat options) sheet journal]
    apply report_of_diagnoses
    intro placement
    apply Option.bind_congr
    intro selectors _
    apply Option.bind_congr
    intro selector _
    rw [Rule.complaint?]
    cases judge options selector <;> rfl
  · rw [answers_check .noDescendantCombinator sheet journal]
    apply report_of_diagnoses
    intro placement
    simp only [← hasDescendant_eq_any_kind]
    rfl

end ClassLint
