import ClassLint.Linter
import ClassLint.Proofs.Journal
import ClassLint.Proofs.NamedEntries

/-! Which rules a configuration switches on. They run in the order of their names, so two rules that
are both on always run in the same order. -/

namespace ClassLint

namespace Config

def Ordered (config : Config) : Prop :=
  config.rules.Pairwise fun entry later => precedes entry.1 later.1 = true

theorem ordered_empty : empty.Ordered := .nil

theorem ordered_withRule {config : Config} (ordered : config.Ordered) (name : Text)
    (setting : RuleSetting) : (config.withRule name setting).Ordered := by
  exact increasing_insertEntry name setting ordered

end Config

theorem exists_of_bind_eq_ok {ε α β : Type} {first : Except ε α} {next : α → Except ε β} {b : β}
    (bound : first >>= next = .ok b) : ∃ a, first = .ok a ∧ next a = .ok b := by
  cases first with
  | error error => cases bound
  | ok a => exact ⟨a, rfl, bound⟩

theorem RuleName.text_of_ofText? {t : Text} {name : RuleName}
    (known : RuleName.ofText? t = some name) : name.text = t := by
  simpa using List.find?_some known

theorem name_of_activate {name : Text} {setting : RuleSetting} {rule : Rule}
    (active : activate name setting = .ok (some rule)) : rule.name.text = name := by
  rw [activate] at active
  split at active
  · cases active
  · rename_i known found
    rw [← RuleName.text_of_ofText? found]
    split at active
    · cases active
    · cases known with
      | classFormat =>
          obtain ⟨options, -, same⟩ := exists_of_map_eq_ok active
          cases same
          rfl
      | noDescendantCombinator =>
          cases active
          rfl

theorem sublist_of_activeRules {entries : List (Text × RuleSetting)} {rules : List Rule}
    (active : Linter.activeRules entries = .ok rules) :
    (rules.map fun rule => rule.name.text).Sublist (entries.map Prod.fst) := by
  induction entries generalizing rules with
  | nil =>
      cases active
      exact .slnil
  | cons entry rest ih =>
      rw [Linter.activeRules] at active
      obtain ⟨rule?, activated, more⟩ := exists_of_bind_eq_ok active
      obtain ⟨others, later, whole⟩ := exists_of_bind_eq_ok more
      cases whole
      cases rule? with
      | none => exact (ih later).cons _
      | some rule =>
          have name := name_of_activate activated
          simpa [name] using (ih later).cons_cons entry.1

theorem activeRules_of_ofConfig {config : Config} {linter : Linter} {journal : Journal}
    (built : (Linter.ofConfig config).run.answer journal = .ok linter) :
    Linter.activeRules config.rules = .ok linter.rules := by
  rw [Linter.ofConfig] at built
  cases active : Linter.activeRules config.rules with
  | error error =>
      rw [active] at built
      cases built
  | ok rules =>
      rw [active] at built
      cases built
      rfl

theorem precedes_text_iff (first second : RuleName) :
    precedes first.text second.text = true ↔
      first = .classFormat ∧ second = .noDescendantCombinator := by
  cases first <;> cases second <;> decide

theorem pairwise_names {config : Config} {rules : List Rule} (ordered : config.Ordered)
    (active : Linter.activeRules config.rules = .ok rules) :
    (rules.map fun rule => rule.name.text).Pairwise fun name later =>
      precedes name later = true := by
  have names : (config.rules.map Prod.fst).Pairwise fun name later => precedes name later = true :=
    List.pairwise_map.mpr ordered
  exact names.sublist (sublist_of_activeRules active)

theorem pairwise_rules {config : Config} {rules : List Rule} (ordered : config.Ordered)
    (active : Linter.activeRules config.rules = .ok rules) :
    rules.Pairwise fun rule later =>
      rule.name = .classFormat ∧ later.name = .noDescendantCombinator := by
  have kept := List.pairwise_map.mp (pairwise_names ordered active)
  exact kept.imp fun before => (precedes_text_iff _ _).mp before

theorem exists_rules_eq {config : Config} {rules : List Rule} (ordered : config.Ordered)
    (active : Linter.activeRules config.rules = .ok rules)
    (both : ∀ name : RuleName, name ∈ rules.map Rule.name) :
    ∃ options, rules = [.classFormat options, .noDescendantCombinator] := by
  have sorted := pairwise_rules ordered active
  match rules with
  | [] => cases both .classFormat
  | [rule] =>
      have first := List.mem_singleton.mp (both .classFormat)
      have second := List.mem_singleton.mp (both .noDescendantCombinator)
      cases first.trans second.symm
  | first :: second :: rest =>
      obtain ⟨least, later⟩ := List.pairwise_cons.mp sorted
      obtain ⟨format, descendants⟩ := least second List.mem_cons_self
      cases rest with
      | cons third rest =>
          obtain ⟨again, -⟩ := (List.pairwise_cons.mp later).1 third List.mem_cons_self
          cases again.symm.trans descendants
      | nil =>
          cases first with
          | noDescendantCombinator => cases format
          | classFormat options =>
              cases second with
              | classFormat others => cases descendants
              | noDescendantCombinator => exact ⟨options, rfl⟩

end ClassLint
