import ClassLint.Proofs.Activation
import Mathlib.Data.List.Perm.Basic
import Mathlib.Data.List.Nodup

/-! Which configurations can be activated. Every entry stands for itself: a configuration fails
exactly if one of its entries does, with the error of the first such entry, and what it holds does
not depend on the order in which its entries were set. -/

namespace ClassLint

theorem mapM_eq_error_iff {ε α β : Type} {f : α → Except ε β} {items : List α} {error : ε} :
    items.mapM f = .error error ↔
      ∃ before item after, items = before ++ item :: after ∧
        (∀ earlier ∈ before, ∃ result, f earlier = .ok result) ∧ f item = .error error := by
  induction items with
  | nil => simp [pure, Except.pure]
  | cons first rest ih =>
      rw [List.mapM_cons]
      constructor
      · intro failed
        cases outcome : f first with
        | error other =>
            rw [outcome] at failed
            cases failed
            exact ⟨[], first, rest, rfl, by simp, outcome⟩
        | ok result =>
            rw [outcome] at failed
            cases later : rest.mapM f with
            | ok results =>
                rw [later] at failed
                cases failed
            | error other =>
                rw [later] at failed
                cases failed
                obtain ⟨before, item, after, rfl, passed, here⟩ := ih.mp later
                refine ⟨first :: before, item, after, rfl, ?_, here⟩
                exact List.forall_mem_cons.mpr ⟨⟨result, outcome⟩, passed⟩
      · rintro ⟨before, item, after, whole, passed, here⟩
        cases before with
        | nil =>
            cases whole
            rw [here]
            rfl
        | cons _ before =>
            cases whole
            obtain ⟨⟨result, outcome⟩, others⟩ := List.forall_mem_cons.mp passed
            rw [outcome, ih.mpr ⟨before, item, after, rfl, others, here⟩]
            rfl

theorem exists_mapM_iff {ε α β : Type} {f : α → Except ε β} {items : List α} :
    (∃ results, items.mapM f = .ok results) ↔ ∀ item ∈ items, ∃ result, f item = .ok result := by
  constructor
  · rintro ⟨results, mapped⟩ item member
    cases outcome : f item with
    | ok result => exact ⟨result, rfl⟩
    | error error =>
        induction items generalizing results with
        | nil => cases member
        | cons first rest ih =>
            rw [List.mapM_cons] at mapped
            obtain ⟨result, passed, more⟩ := exists_of_bind_eq_ok mapped
            obtain ⟨others, later, -⟩ := exists_of_bind_eq_ok more
            rcases List.mem_cons.mp member with rfl | member
            · rw [outcome] at passed
              cases passed
            · exact ih others later member
  · intro passed
    cases mapped : items.mapM f with
    | ok results => exact ⟨results, rfl⟩
    | error error =>
        obtain ⟨before, item, after, rfl, -, failed⟩ := mapM_eq_error_iff.mp mapped
        obtain ⟨result, outcome⟩ := passed item (by simp)
        rw [failed] at outcome
        cases outcome

theorem exists_map_iff {ε α β : Type} {f : α → β} {outcome : Except ε α} :
    (∃ result, outcome.map f = .ok result) ↔ ∃ value, outcome = .ok value := by
  cases outcome <;> simp [Except.map]

/-! ### Patterns -/

def SecondaryOptions.patterns (options : SecondaryOptions) :
    List (Style × Option PatternOption) :=
  [(.component, options.component?), (.element, options.element?), (.variant, options.variant?),
    (.helper, options.helper?)]

def Compiles (pattern : Style × Option PatternOption) : Prop :=
  ∀ spec, PatternOption.spec? pattern.1 pattern.2 = some spec →
    ∃ compiled, ClassPattern.compile spec = .ok compiled

def FailsToCompile (pattern : Style × Option PatternOption) (fault : PatternFault) : Prop :=
  ∃ spec, PatternOption.spec? pattern.1 pattern.2 = some spec ∧
    ClassPattern.compile spec = .error fault

theorem exists_resolve_iff (pattern : Style × Option PatternOption) :
    (∃ compiled?, PatternOption.resolve pattern.1 pattern.2 = .ok compiled?) ↔
      Compiles pattern := by
  unfold PatternOption.resolve Compiles
  cases PatternOption.spec? pattern.1 pattern.2 with
  | none => simp
  | some spec => cases compiled : ClassPattern.compile spec <;> simp [compiled]

theorem resolve_eq_error_iff (pattern : Style × Option PatternOption) (fault : OptionFault) :
    PatternOption.resolve pattern.1 pattern.2 = .error fault ↔
      fault.option = pattern.1.name ∧ FailsToCompile pattern fault.fault := by
  unfold PatternOption.resolve FailsToCompile
  obtain ⟨option, fault⟩ := fault
  cases PatternOption.spec? pattern.1 pattern.2 with
  | none => simp
  | some spec =>
      cases compiled : ClassPattern.compile spec with
      | ok pattern => simp [compiled]
      | error other => simp [compiled, eq_comm]

theorem resolve_map_patterns (options : SecondaryOptions) :
    (ResolvedOptions.resolve options).map
        (fun resolved => [resolved.component?, resolved.element?, resolved.variant?,
          resolved.helper?]) =
      options.patterns.mapM fun pattern => PatternOption.resolve pattern.1 pattern.2 := by
  simp only [ResolvedOptions.resolve, SecondaryOptions.patterns, List.mapM_cons, List.mapM_nil]
  cases PatternOption.resolve .component options.component? with
  | error fault => rfl
  | ok component? =>
      cases PatternOption.resolve .element options.element? with
      | error fault => rfl
      | ok element? =>
          cases PatternOption.resolve .variant options.variant? with
          | error fault => rfl
          | ok variant? => cases PatternOption.resolve .helper options.helper? <;> rfl

theorem exists_resolve_options_iff (options : SecondaryOptions) :
    (∃ resolved, ResolvedOptions.resolve options = .ok resolved) ↔
      ∀ pattern ∈ options.patterns, Compiles pattern := by
  rw [← exists_map_iff, resolve_map_patterns, exists_mapM_iff]
  exact forall₂_congr fun pattern _ => exists_resolve_iff pattern

theorem resolve_options_eq_error_iff (options : SecondaryOptions) (fault : OptionFault) :
    ResolvedOptions.resolve options = .error fault ↔
      ∃ before pattern after, options.patterns = before ++ pattern :: after ∧
        (∀ earlier ∈ before, Compiles earlier) ∧ fault.option = pattern.1.name ∧
        FailsToCompile pattern fault.fault := by
  rw [← map_eq_error_iff, resolve_map_patterns, mapM_eq_error_iff]
  simp only [exists_resolve_iff, resolve_eq_error_iff]

theorem exists_resolve_default : ∃ resolved, ResolvedOptions.resolve {} = .ok resolved := by
  have compiles (style : Style) : (ClassPattern.compile (.style style)).isOk = true := by
    cases style <;> decide +kernel
  rw [exists_resolve_options_iff]
  intro pattern member spec asked
  have style : spec = .style pattern.1 := by
    simp only [SecondaryOptions.patterns, List.mem_cons, List.not_mem_nil, or_false] at member
    rcases member with rfl | rfl | rfl | rfl <;> cases asked <;> rfl
  rw [style]
  have ok := compiles pattern.1
  cases compiled : ClassPattern.compile (.style pattern.1) with
  | ok found => exact ⟨found, rfl⟩
  | error fault =>
      rw [compiled] at ok
      cases ok

/-! ### Entries -/

/-- An entry that can be activated: its name is known, and the options of the class format rule, if
it is on and has any, are read and compile. -/
structure EntryFits (name : Text) (setting : RuleSetting) : Prop where
  known : ∃ rule : RuleName, rule.text = name
  options : name = RuleName.classFormat.text → setting.option.isEnabled = true →
    ∀ value, setting.secondary? = some value →
      ∃ options, SecondaryOptions.ofJson value = .ok options ∧
        ∀ pattern ∈ options.patterns, Compiles pattern

/-- Why an entry cannot be activated. An unknown name fails whatever its setting, and options only
where they are looked at. -/
inductive EntryFault (name : Text) (setting : RuleSetting) : ConfigError → Prop where
  | unknown (other : ∀ rule : RuleName, rule.text ≠ name) :
      EntryFault name setting (.unknownRule name)
  | unread {value : Json} (format : name = RuleName.classFormat.text)
      (enabled : setting.option.isEnabled = true) (given : setting.secondary? = some value)
      (misfit : ∀ options, SecondaryOptions.ofJson value ≠ .ok options) :
      EntryFault name setting (.invalidOptions name)
  | pattern {value : Json} {options : SecondaryOptions}
      {before after : List (Style × Option PatternOption)} {pattern : Style × Option PatternOption}
      {fault : PatternFault} (format : name = RuleName.classFormat.text)
      (enabled : setting.option.isEnabled = true) (given : setting.secondary? = some value)
      (read : SecondaryOptions.ofJson value = .ok options)
      (place : options.patterns = before ++ pattern :: after)
      (compiled : ∀ earlier ∈ before, Compiles earlier) (failed : FailsToCompile pattern fault) :
      EntryFault name setting (.pattern ⟨pattern.1.name, fault⟩)

theorem ofText?_text (rule : RuleName) : RuleName.ofText? rule.text = some rule := by
  cases rule <;> decide

theorem ofText?_eq_none_iff (name : Text) :
    RuleName.ofText? name = none ↔ ∀ rule : RuleName, rule.text ≠ name := by
  constructor
  · rintro unknown rule rfl
    rw [ofText?_text] at unknown
    cases unknown
  · intro other
    cases known : RuleName.ofText? name with
    | none => rfl
    | some rule => exact absurd (RuleName.text_of_ofText? known) (other rule)

section Activation

variable {name : Text} {setting : RuleSetting} {value : Json}

theorem activate_of_disabled {rule : RuleName} (disabled : setting.option.isEnabled = false) :
    activate rule.text setting = .ok none := by
  rw [activate, ofText?_text]
  simp [disabled]

theorem activate_descendants (enabled : setting.option.isEnabled = true) :
    activate RuleName.noDescendantCombinator.text setting = .ok (some .noDescendantCombinator) := by
  rw [activate, ofText?_text]
  simp [enabled]

theorem activate_format (enabled : setting.option.isEnabled = true) :
    activate RuleName.classFormat.text setting =
      (setting.resolve RuleName.classFormat.text).map fun options =>
        some (.classFormat options) := by
  rw [activate, ofText?_text]
  simp [enabled]

theorem exists_resolve_of_none (given : setting.secondary? = none) :
    ∃ resolved, setting.resolve name = .ok resolved := by
  obtain ⟨resolved, compiled⟩ := exists_resolve_default
  refine ⟨resolved, ?_⟩
  simp only [RuleSetting.resolve, given, bind, Except.bind, compiled]
  rfl

theorem resolve_of_misfit (given : setting.secondary? = some value)
    (misfit : ∀ options, SecondaryOptions.ofJson value ≠ .ok options) :
    setting.resolve name = .error (.invalidOptions name) := by
  rw [RuleSetting.resolve, given]
  cases read : SecondaryOptions.ofJson value with
  | ok options => exact absurd read (misfit options)
  | error fault => simp [read, bind, Except.bind]

theorem resolve_of_read {options : SecondaryOptions} (given : setting.secondary? = some value)
    (read : SecondaryOptions.ofJson value = .ok options) :
    setting.resolve name = (ResolvedOptions.resolve options).mapError .pattern := by
  rw [RuleSetting.resolve, given]
  simp [read, bind, Except.bind]

theorem exists_of_resolve_eq_error {error : ConfigError}
    (failed : setting.resolve name = .error error) :
    ∃ value, setting.secondary? = some value ∧
      ((∀ options, SecondaryOptions.ofJson value ≠ .ok options) ∧ error = .invalidOptions name ∨
        ∃ options fault, SecondaryOptions.ofJson value = .ok options ∧
          ResolvedOptions.resolve options = .error fault ∧ error = .pattern fault) := by
  cases given : setting.secondary? with
  | none =>
      obtain ⟨resolved, compiled⟩ : ∃ resolved, setting.resolve name = .ok resolved :=
        exists_resolve_of_none given
      rw [compiled] at failed
      cases failed
  | some value =>
      refine ⟨value, rfl, ?_⟩
      cases read : SecondaryOptions.ofJson value with
      | error fault =>
          rw [resolve_of_misfit given (by simp [read])] at failed
          cases failed
          exact .inl ⟨by simp, rfl⟩
      | ok options =>
          rw [resolve_of_read given read] at failed
          cases compiled : ResolvedOptions.resolve options with
          | ok resolved =>
              rw [compiled] at failed
              cases failed
          | error fault =>
              rw [compiled] at failed
              cases failed
              exact .inr ⟨options, fault, rfl, compiled, rfl⟩

theorem activate_eq_error_iff {error : ConfigError} :
    activate name setting = .error error ↔ EntryFault name setting error := by
  constructor
  · intro failed
    cases known : RuleName.ofText? name with
    | none =>
        rw [activate, known] at failed
        cases failed
        exact .unknown ((ofText?_eq_none_iff name).mp known)
    | some rule =>
        obtain rfl := RuleName.text_of_ofText? known
        cases enabled : setting.option.isEnabled with
        | false =>
            rw [activate_of_disabled enabled] at failed
            cases failed
        | true =>
            cases rule with
            | noDescendantCombinator =>
                rw [activate_descendants enabled] at failed
                cases failed
            | classFormat =>
                rw [activate_format enabled, map_eq_error_iff] at failed
                obtain ⟨value, given, ⟨misfit, rfl⟩ | ⟨options, fault, read, refused, rfl⟩⟩ :=
                  exists_of_resolve_eq_error failed
                · exact .unread rfl enabled given misfit
                · obtain ⟨before, pattern, after, place, compiled, named, here⟩ :=
                    (resolve_options_eq_error_iff options fault).mp refused
                  obtain ⟨option, cause⟩ := fault
                  cases named
                  exact .pattern rfl enabled given read place compiled here
  · rintro (other | ⟨rfl, enabled, given, misfit⟩ |
      ⟨rfl, enabled, given, read, place, compiled, failed⟩)
    · rw [activate, (ofText?_eq_none_iff name).mpr other]
    · rw [activate_format enabled, resolve_of_misfit given misfit]
      rfl
    · rw [activate_format enabled, resolve_of_read given read,
        (resolve_options_eq_error_iff _ ⟨_, _⟩).mpr
          ⟨_, _, _, place, compiled, rfl, failed⟩]
      rfl

theorem exists_activate_iff :
    (∃ rule?, activate name setting = .ok rule?) ↔ EntryFits name setting := by
  constructor
  · rintro ⟨rule?, active⟩
    have faultless (error : ConfigError) : ¬EntryFault name setting error := by
      rw [← activate_eq_error_iff, active]
      exact nofun
    refine ⟨?_, ?_⟩
    · by_contra unknown
      exact faultless _ (.unknown (not_exists.mp unknown))
    · intro format enabled value given
      cases read : SecondaryOptions.ofJson value with
      | error fault => exact absurd (.unread format enabled given (by simp [read])) (faultless _)
      | ok options =>
          refine ⟨options, rfl, (exists_resolve_options_iff options).mp ?_⟩
          cases compiled : ResolvedOptions.resolve options with
          | ok resolved => exact ⟨resolved, rfl⟩
          | error fault =>
              obtain ⟨before, pattern, after, place, passed, -, failed⟩ :=
                (resolve_options_eq_error_iff options fault).mp compiled
              exact absurd (.pattern format enabled given read place passed failed) (faultless _)
  · rintro ⟨⟨rule, rfl⟩, options⟩
    cases enabled : setting.option.isEnabled with
    | false => exact ⟨none, activate_of_disabled enabled⟩
    | true =>
        cases rule with
        | noDescendantCombinator => exact ⟨_, activate_descendants enabled⟩
        | classFormat =>
            rw [activate_format enabled, exists_map_iff]
            cases given : setting.secondary? with
            | none => exact exists_resolve_of_none given
            | some value =>
                obtain ⟨options, read, compile⟩ := options rfl enabled value given
                obtain ⟨resolved, compiled⟩ := (exists_resolve_options_iff options).mpr compile
                rw [resolve_of_read given read, compiled]
                exact ⟨resolved, rfl⟩

theorem name_of_activate_eq {rule? : Option Rule} (active : activate name setting = .ok rule?) :
    rule?.map (fun rule => rule.name.text) =
      if setting.option.isEnabled then some name else none := by
  obtain ⟨⟨rule, rfl⟩, -⟩ := exists_activate_iff.mp ⟨rule?, active⟩
  cases enabled : setting.option.isEnabled with
  | false =>
      rw [activate_of_disabled enabled] at active
      cases active
      rfl
  | true =>
      cases rule with
      | noDescendantCombinator =>
          rw [activate_descendants enabled] at active
          cases active
          rfl
      | classFormat =>
          rw [activate_format enabled] at active
          obtain ⟨options, -, rfl⟩ := exists_of_map_eq_ok active
          rfl

end Activation

/-! ### Configurations -/

theorem activeRules_eq_mapM (entries : List (Text × RuleSetting)) :
    Linter.activeRules entries =
      (entries.mapM fun entry => activate entry.1 entry.2).map fun rules =>
        rules.flatMap Option.toList := by
  induction entries with
  | nil => rfl
  | cons entry rest ih =>
      rw [Linter.activeRules, List.mapM_cons, ih]
      cases activate entry.1 entry.2 with
      | error error => rfl
      | ok rule? => cases rest.mapM fun entry => activate entry.1 entry.2 <;> rfl

theorem exists_activeRules_iff (entries : List (Text × RuleSetting)) :
    (∃ rules, Linter.activeRules entries = .ok rules) ↔
      ∀ entry ∈ entries, EntryFits entry.1 entry.2 := by
  rw [activeRules_eq_mapM, exists_map_iff, exists_mapM_iff]
  exact forall₂_congr fun entry _ => exists_activate_iff

theorem mem_before_iff {config : Config} (ordered : config.Ordered)
    {before after : List (Text × RuleSetting)} {entry : Text × RuleSetting}
    (whole : config.rules = before ++ entry :: after) (other : Text × RuleSetting) :
    other ∈ before ↔ other ∈ config.rules ∧ precedes other.1 entry.1 = true := by
  rw [Config.Ordered, whole] at ordered
  obtain ⟨-, later, separate⟩ := List.pairwise_append.mp ordered
  obtain ⟨least, -⟩ := List.pairwise_cons.mp later
  rw [whole]
  constructor
  · intro member
    exact ⟨List.mem_append_left _ member, separate other member entry List.mem_cons_self⟩
  · rintro ⟨member, first⟩
    rw [precedes_iff_lt] at first
    rcases List.mem_append.mp member with member | member
    · exact member
    · rcases List.mem_cons.mp member with rfl | member
      · exact absurd first (lt_irrefl _)
      · exact absurd first (lt_asymm ((precedes_iff_lt _ _).mp (least other member)))

/-- The first entry that fails is the one with the least name. -/
theorem activeRules_eq_error_iff {config : Config} (ordered : config.Ordered)
    {error : ConfigError} :
    Linter.activeRules config.rules = .error error ↔
      ∃ entry ∈ config.rules, EntryFault entry.1 entry.2 error ∧
        ∀ other ∈ config.rules, precedes other.1 entry.1 = true → EntryFits other.1 other.2 := by
  simp only [activeRules_eq_mapM, map_eq_error_iff, mapM_eq_error_iff, exists_activate_iff,
    activate_eq_error_iff]
  constructor
  · rintro ⟨before, entry, after, whole, fit, failed⟩
    refine ⟨entry, by simp [whole], failed, ?_⟩
    intro other member first
    exact fit other ((mem_before_iff ordered whole other).mpr ⟨member, first⟩)
  · rintro ⟨entry, member, failed, fit⟩
    obtain ⟨before, after, whole⟩ := List.append_of_mem member
    refine ⟨before, entry, after, whole, ?_, failed⟩
    intro other earlier
    obtain ⟨here, first⟩ := (mem_before_iff ordered whole other).mp earlier
    exact fit other here first

theorem names_of_activeRules {entries : List (Text × RuleSetting)} {rules : List Rule}
    (active : Linter.activeRules entries = .ok rules) :
    rules.map (fun rule => rule.name.text) =
      (entries.filter fun entry => entry.2.option.isEnabled).map Prod.fst := by
  induction entries generalizing rules with
  | nil =>
      cases active
      rfl
  | cons entry rest ih =>
      rw [Linter.activeRules] at active
      obtain ⟨rule?, activated, more⟩ := exists_of_bind_eq_ok active
      obtain ⟨others, later, whole⟩ := exists_of_bind_eq_ok more
      cases whole
      have name := name_of_activate_eq activated
      have first : rule?.toList.map (fun rule => rule.name.text) =
          (rule?.map fun rule => rule.name.text).toList := by cases rule? <;> rfl
      rw [List.map_append, ih later, List.filter_cons, first, name]
      cases entry.2.option.isEnabled <;> rfl

open Journaled in
theorem answers_ofConfig (config : Config) :
    Answers (Linter.ofConfig config).run ((Linter.activeRules config.rules).map Linter.mk) := by
  rw [Linter.ofConfig]
  cases Linter.activeRules config.rules with
  | error error => exact answers_pure _
  | ok rules => exact fun _ => rfl

/-! ### Settings made one after the other -/

namespace Config

def withRules (config : Config) (steps : List (Text × RuleSetting)) : Config :=
  steps.foldl (fun config step => config.withRule step.1 step.2) config

def setting? (config : Config) (name : Text) : Option RuleSetting :=
  (config.rules.find? fun entry => entry.1 = name).map Prod.snd

theorem setting?_withRule (config : Config) (name other : Text) (setting : RuleSetting) :
    (config.withRule name setting).setting? other =
      if other = name then some setting else config.setting? other := by
  rw [withRule, setting?, setting?, find?_insertEntry]
  split_ifs <;> rfl

theorem setting?_eq_some_iff {config : Config} (ordered : config.Ordered) {name : Text}
    {setting : RuleSetting} :
    config.setting? name = some setting ↔ (name, setting) ∈ config.rules := by
  rw [setting?, Option.map_eq_some_iff]
  constructor
  · rintro ⟨entry, found, rfl⟩
    have named : entry.1 = name := by simpa using List.find?_some found
    exact named ▸ List.mem_of_find?_eq_some found
  · intro member
    obtain ⟨before, after, whole⟩ := List.append_of_mem member
    refine ⟨(name, setting), ?_, rfl⟩
    rw [List.find?_eq_some_iff_append]
    refine ⟨by simp, before, after, whole, ?_⟩
    intro other earlier
    have first := ((mem_before_iff ordered whole other).mp earlier).2
    have different : other.1 ≠ name := by
      rintro same
      rw [precedes_iff_lt, same] at first
      exact lt_irrefl _ first
    simpa using different

theorem eq_of_setting? {config other : Config} (ordered : config.Ordered)
    (orderedOther : other.Ordered) (same : ∀ name, config.setting? name = other.setting? name) :
    config = other := by
  have nodup {config : Config} (ordered : config.Ordered) : config.rules.Nodup := by
    apply ordered.imp
    rintro entry later first rfl
    exact lt_irrefl _ ((precedes_iff_lt _ _).mp first)
  have members : config.rules.Perm other.rules := by
    rw [List.perm_ext_iff_of_nodup (nodup ordered) (nodup orderedOther)]
    rintro ⟨name, setting⟩
    rw [← setting?_eq_some_iff ordered, ← setting?_eq_some_iff orderedOther, same]
  have rules : config.rules = other.rules := by
    apply members.eq_of_pairwise ?_ ordered orderedOther
    intro entry later _ _ first second
    rw [precedes_iff_lt] at first second
    exact absurd second (lt_asymm first)
  cases config
  cases other
  exact congrArg Config.mk rules

def lastSetting? (steps : List (Text × RuleSetting)) (name : Text) : Option RuleSetting :=
  (steps.filter fun step => step.1 = name).getLast?.map Prod.snd

theorem setting?_withRules (config : Config) (steps : List (Text × RuleSetting)) (name : Text) :
    (config.withRules steps).setting? name =
      (lastSetting? steps name).or (config.setting? name) := by
  induction steps generalizing config with
  | nil => rfl
  | cons step rest ih =>
      -- A later setting of the name hides this one, whatever it is.
      rw [withRules, List.foldl_cons, ← withRules, ih, setting?_withRule, lastSetting?,
        lastSetting?, List.filter_cons]
      by_cases same : step.1 = name
      · simp only [same, decide_true, if_true, List.getLast?_cons]
        cases (rest.filter fun step => step.1 = name).getLast? <;> simp
      · simp [same, Ne.symm same]

theorem ordered_withRules {config : Config} (ordered : config.Ordered)
    (steps : List (Text × RuleSetting)) : (config.withRules steps).Ordered := by
  induction steps generalizing config with
  | nil => exact ordered
  | cons step rest ih => exact ih (ordered_withRule ordered step.1 step.2)

theorem withRules_eq {config : Config} (ordered : config.Ordered)
    {steps others : List (Text × RuleSetting)}
    (same : ∀ name, lastSetting? steps name = lastSetting? others name) :
    config.withRules steps = config.withRules others := by
  apply eq_of_setting? (ordered_withRules ordered steps) (ordered_withRules ordered others)
  intro name
  rw [setting?_withRules, setting?_withRules, same]

end Config

open Journaled in
/-- A configuration gives a linter exactly if each of its entries can be activated, and then the
active rules are those whose entries are on, in the order of their names. Else the error is that of
the failing entry with the least name. Configurations that come from the same one by settings in a
different order, or by more settings than are kept, are the same. -/
theorem ofConfig_by_entry :
    (∀ (config : Config) (journal : Journal), config.Ordered →
      ((∃ linter, (Linter.ofConfig config).run.answer journal = .ok linter) ↔
        ∀ entry ∈ config.rules, EntryFits entry.1 entry.2) ∧
      (∀ linter, (Linter.ofConfig config).run.answer journal = .ok linter →
        linter.ruleNames =
            (config.rules.filter fun entry => entry.2.option.isEnabled).map Prod.fst ∧
          linter.ruleNames.Pairwise fun name later => precedes name later = true) ∧
      ∀ error, (Linter.ofConfig config).run.answer journal = .error error ↔
        ∃ entry ∈ config.rules, EntryFault entry.1 entry.2 error ∧
          ∀ other ∈ config.rules, precedes other.1 entry.1 = true → EntryFits other.1 other.2) ∧
    ∀ (start : Config) (steps : List (Text × RuleSetting)), start.Ordered →
      (start.withRules steps).Ordered ∧
      (∀ name, (start.withRules steps).setting? name =
        (Config.lastSetting? steps name).or (start.setting? name)) ∧
      ∀ others : List (Text × RuleSetting),
        (∀ name, Config.lastSetting? steps name = Config.lastSetting? others name) →
        start.withRules steps = start.withRules others := by
  constructor
  · intro config journal ordered
    refine ⟨?_, ?_, ?_⟩
    · rw [answers_ofConfig config journal, exists_map_iff, exists_activeRules_iff]
    · intro linter built
      have active := activeRules_of_ofConfig built
      exact ⟨names_of_activeRules active, pairwise_names ordered active⟩
    · intro error
      rw [answers_ofConfig config journal, map_eq_error_iff]
      exact activeRules_eq_error_iff ordered
  · intro start steps ordered
    exact ⟨Config.ordered_withRules ordered steps, start.setting?_withRules steps,
      fun others same => Config.withRules_eq ordered same⟩

def faultySteps : List (Text × RuleSetting) :=
  [("zzz".toList, .primary (.enabled false)), (RuleName.classFormat.text, .single .never),
    (RuleName.classFormat.text, .withOptions .always
      (.object [("component".toList, .string "("), ("element".toList, .string "[")]))]

/-- The name that is unknown comes after the one whose options fail, whichever is set first; and
both of the recommended rules are active. -/
theorem ofConfig_by_entry_faulty :
    Config.empty.Ordered ∧
      (∃ entry ∈ (Config.empty.withRules faultySteps).rules,
        EntryFault entry.1 entry.2 (.pattern ⟨"component", .invalid "("⟩) ∧
          ∀ other ∈ (Config.empty.withRules faultySteps).rules,
            precedes other.1 entry.1 = true → EntryFits other.1 other.2) ∧
      EntryFault "zzz" (.primary (.enabled false)) (.unknownRule "zzz") ∧
      Config.empty.withRules faultySteps =
        Config.empty.withRules [faultySteps[2], faultySteps[0]] ∧
      ∃ linter, (Linter.ofConfig .recommended).run.answer .empty = .ok linter ∧
        linter.ruleNames = [RuleName.classFormat.text, RuleName.noDescendantCombinator.text] := by
  obtain ⟨entries, settings⟩ := ofConfig_by_entry
  obtain ⟨ordered, -, agree⟩ := settings .empty faultySteps Config.ordered_empty
  have failed : (Linter.activeRules (Config.empty.withRules faultySteps).rules).map
      (List.map Rule.name) = .error (.pattern ⟨"component", .invalid "("⟩) := by
    decide +kernel
  have run : (Linter.ofConfig (Config.empty.withRules faultySteps)).run.answer .empty =
      .error (.pattern ⟨"component", .invalid "("⟩) := by
    rw [answers_ofConfig, map_eq_error_iff.mp failed]
    rfl
  refine ⟨Config.ordered_empty, ((entries _ _ ordered).2.2 _).mp run, ?_, ?_, ?_⟩
  · exact .unknown fun rule => by cases rule <;> decide
  · apply agree
    intro name
    by_cases format : RuleName.classFormat.text = name
    · subst format
      rfl
    · simp [Config.lastSetting?, faultySteps, format]
  · have active : ((Linter.activeRules Config.recommended.rules).map (List.map Rule.name)).isOk =
        true := by decide +kernel
    obtain ⟨ordered, -⟩ := settings Config.recommended [] (Config.ordered_withRule
      (Config.ordered_withRule Config.ordered_empty _ _) _ _)
    obtain ⟨fits, names, -⟩ := entries .recommended .empty ordered
    cases built : (Linter.ofConfig .recommended).run.answer .empty with
    | ok linter => exact ⟨linter, rfl, (names linter built).1⟩
    | error error =>
        rw [answers_ofConfig, map_eq_error_iff] at built
        rw [built] at active
        cases active

end ClassLint
