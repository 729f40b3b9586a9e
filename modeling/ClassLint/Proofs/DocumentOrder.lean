import ClassLint.Proofs.Independence
import ClassLint.Proofs.Places

/-! The order of diagnostics. Rules report one after the other in the order of their names; each
goes through the style rules in the order of the source and reports a style rule at most once, at
its own position. -/

namespace ClassLint

open Journaled

theorem pairwise_of_forall₂ {α β : Type} {related : α → β → Prop} {r : α → α → Prop}
    {s : β → β → Prop} {items : List α} {others : List β} (both : List.Forall₂ related items others)
    (ordered : items.Pairwise r)
    (carries : ∀ first second a b, r first second → related first a → related second b → s a b) :
    others.Pairwise s := by
  rw [List.pairwise_iff_getElem] at ordered ⊢
  intro i j inside later before
  have same := both.length_eq
  exact carries _ _ _ _ (ordered i j (same ▸ inside) (same ▸ later) before)
    (both.get (same ▸ inside) inside) (both.get (same ▸ later) later)

theorem exists_mem_of_forall₂ {α β : Type} {related : α → β → Prop} {items : List α}
    {others : List β} (both : List.Forall₂ related items others) {other : β}
    (member : other ∈ others) : ∃ item ∈ items, related item other := by
  obtain ⟨i, inside, rfl⟩ := List.getElem_of_mem member
  have same := both.length_eq
  exact ⟨items[i], List.getElem_mem _, both.get (same ▸ inside) inside⟩

theorem pairwise_position_outline {dialect : Dialect} {source : Text} {sheet : Sheet}
    (read : Sheet.parse dialect source = .ok sheet) :
    sheet.outline.Pairwise fun entry later => entry.2.position < later.2.position := by
  obtain ⟨offsets, increasing, stand⟩ := exists_offsets_of_parse read False.elim
  apply pairwise_of_forall₂ stand increasing
  intro offset other entry later before first second
  have here : entry.2.position = .ofOffset source offset := first.position
  have there : later.2.position = .ofOffset source other := second.position
  rw [here, there]
  exact Position.ofOffset_lt before second.inside

theorem fits_of_mem_outline {dialect : Dialect} {source : Text} {sheet : Sheet}
    {entry : Nat × Node} (read : Sheet.parse dialect source = .ok sheet)
    (member : entry ∈ sheet.outline) (short : source.length < 0xFFFFFFFF) :
    entry.2.position.line ≤ 0xFFFFFFFF ∧ entry.2.position.column ≤ 0xFFFFFFFF := by
  obtain ⟨offsets, -, stand⟩ := exists_offsets_of_parse read False.elim
  obtain ⟨offset, -, here⟩ := exists_mem_of_forall₂ stand member
  exact Position.fits_ofOffset here.position short

theorem pairwise_position_placements {dialect : Dialect} {source : Text} {sheet : Sheet}
    (read : Sheet.parse dialect source = .ok sheet) :
    sheet.placements.Pairwise fun placement later =>
      placement.1.position < later.1.position := by
  have position {node : Node} {head : StyleRule} (same : node.styleRule? = some head) :
      node.position = head.position := by
    cases node with
    | rule other children =>
        cases same
        rfl
    | atBlock | atStatement | declaration | comment => cases same
  have heads : (sheet.placements.map Prod.fst).Pairwise fun head later =>
      head.position < later.position := by
    rw [map_fst_placements, List.pairwise_filterMap]
    apply (pairwise_position_outline read).imp
    intro entry later before head same other sameOther
    rwa [← position same, ← position sameOther]
  rwa [List.pairwise_map] at heads

theorem exists_about_of_diagnosisAt? {rule : Rule} {placement : Placement}
    {diagnostic : Diagnostic} (found : rule.diagnosisAt? placement = some diagnostic) :
    ∃ message, diagnostic = .about rule.name.text message placement.1 := by
  obtain ⟨selectors, -, diagnosed⟩ := Option.bind_eq_some_iff.mp found
  obtain ⟨selector, -, complained⟩ := Option.bind_eq_some_iff.mp diagnosed
  obtain ⟨message, -, same⟩ := Option.map_eq_some_iff.mp complained
  exact ⟨message, same.symm⟩

theorem eq_flatMap_of_reportAll {rules : List Rule} {placements : List Placement}
    {diagnostics : List Diagnostic} (reported : reportAll rules placements = .ok diagnostics) :
    diagnostics = rules.flatMap fun rule => placements.filterMap rule.diagnosisAt? := by
  cases unread : placements.findSome? unreadable? with
  | none =>
      rw [reportAll_of_readable rules unread] at reported
      cases reported
      rfl
  | some error =>
      cases rules with
      | nil =>
          cases reported
          rfl
      | cons rule rest =>
          rw [reportAll_of_unreadable (List.cons_ne_nil rule rest) unread] at reported
          cases reported

theorem answers_lintSource (linter : Linter) (dialect : Dialect) (source : Text) :
    Answers (linter.lintSource dialect source).run
      (match Sheet.parse dialect source with
      | .error error => .error (.sheet error)
      | .ok sheet => (reportAll linter.rules sheet.placements).mapError LintError.selector) := by
  rw [Linter.lintSource]
  cases Sheet.parse dialect source with
  | error error => exact answers_pure _
  | ok sheet =>
      have linted := answers_map (Except.ok (ε := LintError)) (answers_lint linter sheet)
      change Answers _ ((reportAll linter.rules sheet.placements).mapError LintError.selector)
      rw [ExceptT.run_bind]
      generalize reportAll linter.rules sheet.placements = reported at linted ⊢
      apply answers_bind linted
      cases reported <;> exact answers_pure _

theorem eq_ok_of_mapError {ε ε' α : Type} {outcome : Except ε α} {f : ε → ε'} {value : α}
    (mapped : outcome.mapError f = .ok value) : outcome = .ok value := by
  cases outcome with
  | error error => cases mapped
  | ok other =>
      cases mapped
      rfl

theorem exists_of_lintSource {linter : Linter} {dialect : Dialect} {source : Text}
    {journal : Journal} {diagnostics : List Diagnostic}
    (linted : (linter.lintSource dialect source).run.answer journal = .ok diagnostics) :
    ∃ sheet, Sheet.parse dialect source = .ok sheet ∧
      reportAll linter.rules sheet.placements = .ok diagnostics := by
  rw [answers_lintSource linter dialect source journal] at linted
  cases parsed : Sheet.parse dialect source with
  | error error =>
      rw [parsed] at linted
      cases linted
  | ok sheet =>
      rw [parsed] at linted
      exact ⟨sheet, rfl, eq_ok_of_mapError linted⟩

theorem pairwise_position_diagnoses {dialect : Dialect} {source : Text} {sheet : Sheet}
    (read : Sheet.parse dialect source = .ok sheet) (rule : Rule) :
    (sheet.placements.filterMap rule.diagnosisAt?).Pairwise fun diagnostic later =>
      diagnostic.position < later.position := by
  rw [List.pairwise_filterMap]
  apply (pairwise_position_placements read).imp
  intro placement later before diagnostic found other foundOther
  obtain ⟨message, rfl⟩ := exists_about_of_diagnosisAt? found
  obtain ⟨message, rfl⟩ := exists_about_of_diagnosisAt? foundOther
  exact before

theorem ruleName_of_mem_diagnoses {rule : Rule} {placements : List Placement}
    {diagnostic : Diagnostic} (member : diagnostic ∈ placements.filterMap rule.diagnosisAt?) :
    diagnostic.ruleName = rule.name.text := by
  obtain ⟨placement, -, found⟩ := List.mem_filterMap.mp member
  obtain ⟨message, rfl⟩ := exists_about_of_diagnosisAt? found
  rfl

theorem eq_of_position_eq {dialect : Dialect} {source : Text} {sheet : Sheet}
    {entry other : Nat × Node} (read : Sheet.parse dialect source = .ok sheet)
    (member : entry ∈ sheet.outline) (otherMember : other ∈ sheet.outline)
    (same : entry.2.position = other.2.position) : entry = other := by
  have increasing := List.pairwise_iff_getElem.mp (pairwise_position_outline read)
  -- Of two entries at different places in the outline one has the earlier position.
  obtain ⟨i, inside, rfl⟩ := List.getElem_of_mem member
  obtain ⟨j, otherInside, rfl⟩ := List.getElem_of_mem otherMember
  rcases Nat.lt_trichotomy i j with before | equal | after
  · have less := increasing i j inside otherInside before
    rw [same] at less
    exact absurd less (Position.not_lt_self _)
  · subst equal
    rfl
  · have less := increasing j i otherInside inside after
    rw [same] at less
    exact absurd less (Position.not_lt_self _)

theorem existsUnique_entry {dialect : Dialect} {source : Text} {sheet : Sheet} {rule : Rule}
    {diagnostic : Diagnostic} (read : Sheet.parse dialect source = .ok sheet)
    (member : diagnostic ∈ sheet.placements.filterMap rule.diagnosisAt?) :
    ∃! entry, entry ∈ sheet.outline ∧ ∃ head children, entry.2 = .rule head children ∧
      head.selector = diagnostic.selector ∧ head.position = diagnostic.position := by
  obtain ⟨placement, placed, found⟩ := List.mem_filterMap.mp member
  obtain ⟨message, rfl⟩ := exists_about_of_diagnosisAt? found
  have listed : placement.1 ∈ sheet.outline.filterMap fun entry => entry.2.styleRule? := by
    rw [← map_fst_placements]
    exact List.mem_map_of_mem placed
  obtain ⟨⟨depth, node⟩, inside, same⟩ := List.mem_filterMap.mp listed
  cases node with
  | atBlock | atStatement | declaration | comment => cases same
  | rule head children =>
      cases same
      refine ⟨(depth, .rule placement.1 children), ⟨inside, _, _, rfl, rfl, rfl⟩, ?_⟩
      rintro ⟨otherDepth, node⟩ ⟨otherInside, head, others, rfl, -, position⟩
      exact eq_of_position_eq read otherInside inside position

/-- Diagnostics that come rule after rule, and for each rule in order of position, are all about
different rules or positions. -/
theorem pairwise_distinct {linter : Linter} {dialect : Dialect} {source : Text} {sheet : Sheet}
    (sorted : linter.ruleNames.Pairwise fun name later => precedes name later = true)
    (read : Sheet.parse dialect source = .ok sheet) :
    (linter.rules.flatMap fun rule => sheet.placements.filterMap rule.diagnosisAt?).Pairwise
      fun diagnostic later =>
        ¬(diagnostic.ruleName = later.ruleName ∧ diagnostic.position = later.position) := by
  rw [List.pairwise_flatMap]
  constructor
  · intro rule _
    apply (pairwise_position_diagnoses read rule).imp
    rintro diagnostic later before ⟨-, same⟩
    rw [same] at before
    exact Position.not_lt_self _ before
  · apply (List.pairwise_map.mp sorted).imp
    rintro rule other before diagnostic member later laterMember ⟨same, -⟩
    rw [ruleName_of_mem_diagnoses member, ruleName_of_mem_diagnoses laterMember] at same
    rw [precedes_iff_lt, same] at before
    exact lt_irrefl _ before

/-- Diagnostics come in the order of the source. Each active rule has one block of them, and the
blocks come in the order of the rules' names; in a block the positions increase, so that a rule
reports a style rule at most once; and each diagnostic has the selector and the position of one style
rule of the tree. With fewer characters than a word of 32 bits can count, lines and columns are such
words. -/
theorem lintSource_in_order {config : Config} {linter : Linter} {start journal : Journal}
    {dialect : Dialect} {source : Text} {diagnostics : List Diagnostic}
    (ordered : config.Ordered)
    (built : (Linter.ofConfig config).run.answer start = .ok linter)
    (linted : (linter.lintSource dialect source).run.answer journal = .ok diagnostics) :
    ∃ sheet, Sheet.parse dialect source = .ok sheet ∧
      linter.ruleNames.Pairwise (fun name later => precedes name later = true) ∧
      (∃ blocks, diagnostics = blocks.flatten ∧
        List.Forall₂ (fun name block =>
          (∀ diagnostic ∈ block, diagnostic.ruleName = name) ∧
          block.Pairwise fun diagnostic later => diagnostic.position < later.position)
          linter.ruleNames blocks) ∧
      diagnostics.Pairwise (fun diagnostic later =>
        ¬(diagnostic.ruleName = later.ruleName ∧ diagnostic.position = later.position)) ∧
      (∀ diagnostic ∈ diagnostics, ∃! entry, entry ∈ sheet.outline ∧
        ∃ head children, entry.2 = .rule head children ∧
          head.selector = diagnostic.selector ∧ head.position = diagnostic.position) ∧
      (source.length < 0xFFFFFFFF → ∀ diagnostic ∈ diagnostics,
        diagnostic.position.line ≤ 0xFFFFFFFF ∧ diagnostic.position.column ≤ 0xFFFFFFFF) := by
  obtain ⟨sheet, read, reported⟩ := exists_of_lintSource linted
  have sorted := pairwise_names ordered (activeRules_of_ofConfig built)
  rw [eq_flatMap_of_reportAll reported]
  refine ⟨sheet, read, sorted, ⟨linter.rules.map fun rule =>
    sheet.placements.filterMap rule.diagnosisAt?, List.flatMap_def, ?_⟩,
    pairwise_distinct sorted read, ?_, ?_⟩
  · rw [Linter.ruleNames, List.forall₂_map_left_iff, List.forall₂_map_right_iff, List.forall₂_same]
    intro rule _
    exact ⟨fun _ member => ruleName_of_mem_diagnoses member, pairwise_position_diagnoses read rule⟩
  · intro diagnostic member
    obtain ⟨rule, -, found⟩ := List.mem_flatMap.mp member
    exact existsUnique_entry read found
  · intro short diagnostic member
    obtain ⟨rule, -, found⟩ := List.mem_flatMap.mp member
    obtain ⟨entry, inside, head, children, same, -, position⟩ := (existsUnique_entry read found).exists
    have fits := fits_of_mem_outline read inside short
    rwa [same, Node.position, position] at fits

/-- Both recommended rules report both nested style rules. -/
theorem lintSource_in_order_recommended :
    ∃ (linter : Linter) (diagnostics : List Diagnostic) (sheet : Sheet),
      (Linter.ofConfig .recommended).run.answer .empty = .ok linter ∧
      (linter.lintSource .scss
        ".my-tool \x7b\n  .Big \x7b .tiny \x7b \x7d \x7d\n\x7d".toList).run.answer .empty =
          .ok diagnostics ∧
      Sheet.parse .scss ".my-tool \x7b\n  .Big \x7b .tiny \x7b \x7d \x7d\n\x7d".toList =
        .ok sheet ∧
      (diagnostics.map fun d => (d.ruleName, d.position)) =
        [("rscss/class-format".toList, ⟨2, 3⟩), ("rscss/class-format".toList, ⟨2, 10⟩),
          ("rscss/no-descendant-combinator".toList, ⟨2, 3⟩),
          ("rscss/no-descendant-combinator".toList, ⟨2, 10⟩)] ∧
      ∀ diagnostic ∈ diagnostics, ∃! entry, entry ∈ sheet.outline ∧
        ∃ head children, entry.2 = .rule head children ∧
          head.selector = diagnostic.selector ∧ head.position = diagnostic.position := by
  have run : ((Linter.ofConfig .recommended).run.answer .empty).map (fun linter =>
      ((linter.lintSource .scss
        ".my-tool \x7b\n  .Big \x7b .tiny \x7b \x7d \x7d\n\x7d".toList).run.answer .empty).map
          fun diagnostics => diagnostics.map fun d => (d.ruleName, d.position)) =
      .ok (.ok [("rscss/class-format".toList, ⟨2, 3⟩), ("rscss/class-format".toList, ⟨2, 10⟩),
        ("rscss/no-descendant-combinator".toList, ⟨2, 3⟩),
        ("rscss/no-descendant-combinator".toList, ⟨2, 10⟩)]) := by decide +kernel
  obtain ⟨linter, built, observed⟩ := exists_of_map_eq_ok run
  obtain ⟨diagnostics, linted, shown⟩ := exists_of_map_eq_ok observed
  have ordered : Config.recommended.Ordered :=
    Config.ordered_withRule (Config.ordered_withRule Config.ordered_empty _ _) _ _
  obtain ⟨sheet, read, -, -, -, placed, -⟩ := lintSource_in_order ordered built linted
  exact ⟨linter, diagnostics, sheet, built, linted, read, shown, placed⟩

end ClassLint
