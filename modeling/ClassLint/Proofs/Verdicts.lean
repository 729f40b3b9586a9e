import ClassLint.Verdict
import Mathlib.Tactic.ByContra
import Mathlib.Tactic.SplitIfs

/-! The verdict on a selector as conditions in a fixed order. A selector is exempt by its first
level alone. Any other is judged by the first condition that it does not meet, and is accepted if it
meets them all. -/

namespace ClassLint

/-- What is asked of a selector, and what is reported where it is not met. -/
structure Condition where
  Holds : Prop
  violation : Violation

namespace ResolvedOptions

def noHelper (options : ResolvedOptions) (classes : List Token) : Condition where
  Holds := ∀ helper ∈ options.helper?, ∀ token ∈ classes, helper.accepts token.value = false
  violation := .helperName (Token.source classes)

def oneComponent (options : ResolvedOptions) (classes : List Token) : Condition where
  Holds := options.component?.isSome →
    classes.countP (fun token => options.isComponent token.value) = 1
  violation :=
    if classes.any fun token => options.isComponent token.value then
      .tooManyComponents (Token.source classes)
    else .componentName (Token.source classes)

/-- The classes beside the component, which is the first class where the check for it is off. -/
def besideComponent (options : ResolvedOptions) (classes : List Token) : List Token :=
  if options.component?.isSome then classes.filter fun token => !options.isComponent token.value
  else classes.tail

def variantsBeside (options : ResolvedOptions) (classes : List Token) : Condition where
  Holds := ∀ variant ∈ options.variant?, ∀ token ∈ options.besideComponent classes,
    variant.accepts token.value = true
  violation := .variants (((options.besideComponent classes).filter fun token =>
    options.variant?.any fun variant => !variant.accepts token.value).map fun token =>
      trim token.raw)

/-- A level after the first is more than variants. -/
def moreThanVariants (options : ResolvedOptions) (level : Level) : Condition where
  Holds := ∀ variant ∈ options.variant?,
    ¬∀ token ∈ level.tokens, token.isClass = true ∧ variant.accepts token.value = true
  violation := .variantWithoutElement level.text

/-- The first class of a level is an element, or a variant of something that is no class. -/
def elementFirst (options : ResolvedOptions) (level : Level) (first : Token) : Condition where
  Holds := ∀ element ∈ options.element?, element.accepts first.value = true ∨
    (∃ token ∈ level.tokens, token.isClass = false) ∧
      ∃ variant ∈ options.variant?, variant.accepts first.value = true
  violation := .elementName first.raw

def variantLater (options : ResolvedOptions) (later : Token) : Condition where
  Holds := ∀ variant ∈ options.variant?, variant.accepts later.value = true
  violation := .variantName later.raw

def elementConditions (options : ResolvedOptions) (level : Level) : List Condition :=
  match level.classes with
  | [] => []
  | first :: rest =>
    options.moreThanVariants level :: options.elementFirst level first ::
      rest.map options.variantLater

def shallow (options : ResolvedOptions) (selector : Selector) (below : Nat) : Condition where
  Holds := ∀ most ∈ options.maxDepth?, below ≤ most
  violation := .tooDeep selector.text

/-- All that is asked of a selector, in the order in which it is checked. -/
def conditions (options : ResolvedOptions) (selector : Selector) : List Condition :=
  match selector.levels with
  | [] => []
  | component :: elements =>
    [options.noHelper component.classes, options.oneComponent component.classes,
      options.variantsBeside component.classes] ++
      (elements.flatMap options.elementConditions ++
        [options.shallow selector elements.length])

/-- There is no level, the first has no class, or all of its classes are helpers. -/
def Exempts (options : ResolvedOptions) (selector : Selector) : Prop :=
  match selector.levels with
  | [] => True
  | component :: _ => component.classes = [] ∨
      ∃ helper ∈ options.helper?, ∀ token ∈ component.classes, helper.accepts token.value = true

end ResolvedOptions

/-! ### The first condition that is not met -/

namespace Verdict

/-- Acceptance where all conditions are met, else the violation of the first that is not. -/
inductive Follows : List Condition → Verdict → Prop where
  | accept {conditions : List Condition} (hold : ∀ condition ∈ conditions, condition.Holds) :
      Follows conditions .accept
  | reject {before after : List Condition} {failing : Condition}
      (hold : ∀ condition ∈ before, condition.Holds) (fails : ¬failing.Holds) :
      Follows (before ++ failing :: after) (.reject failing.violation)

variable {conditions others : List Condition} {verdict next : Verdict}

theorem follows_nil : Follows [] .accept := .accept (by simp)

theorem follows_of_holds {condition : Condition} (holds : condition.Holds) :
    Follows [condition] .accept := by
  apply Follows.accept
  intro other member
  rwa [List.mem_singleton.mp member]

theorem follows_of_fails {condition : Condition} (fails : ¬condition.Holds)
    (after : List Condition) : Follows (condition :: after) (.reject condition.violation) := by
  have none : ∀ other ∈ ([] : List Condition), other.Holds := by simp
  exact Follows.reject none fails

theorem Follows.andThen (first : Follows conditions verdict) (second : Follows others next) :
    Follows (conditions ++ others) (verdict.andThen next) := by
  cases first with
  | accept hold =>
      cases second with
      | accept more => exact .accept (List.forall_mem_append.mpr ⟨hold, more⟩)
      | @reject before after failing more fails =>
          rw [← List.append_assoc]
          exact .reject (List.forall_mem_append.mpr ⟨hold, more⟩) fails
  | reject hold fails =>
      rw [List.append_assoc, List.cons_append]
      exact .reject hold fails

theorem follows_all {α : Type} {asked : α → List Condition} {judged : α → Verdict}
    (each : ∀ item, Follows (asked item) (judged item)) (items : List α) :
    Follows (items.flatMap asked) (Verdict.all (items.map judged)) := by
  induction items with
  | nil => exact follows_nil
  | cons item rest ih => exact (each item).andThen ih

theorem Follows.ne_exempt (follows : Follows conditions verdict) : verdict ≠ .exempt := by
  cases follows <;> simp

theorem Follows.eq_accept_iff (follows : Follows conditions verdict) :
    verdict = .accept ↔ ∀ condition ∈ conditions, condition.Holds := by
  cases follows with
  | accept hold => exact iff_of_true rfl hold
  | reject hold fails =>
      apply iff_of_false
      · intro same
        cases same
      · intro all
        exact fails (all _ (by simp))

theorem eq_of_first_failing {before after front back : List Condition} {failing other : Condition}
    (whole : before ++ failing :: after = front ++ other :: back)
    (hold : ∀ condition ∈ before, condition.Holds) (fails : ¬failing.Holds)
    (holdFront : ∀ condition ∈ front, condition.Holds) (failsOther : ¬other.Holds) :
    failing = other := by
  induction before generalizing front with
  | nil =>
      cases front with
      | nil => exact (List.cons.inj whole).1
      | cons condition front =>
          rw [(List.cons.inj whole).1] at fails
          exact absurd (holdFront condition List.mem_cons_self) fails
  | cons condition before ih =>
      have first := List.forall_mem_cons.mp hold
      cases front with
      | nil =>
          rw [(List.cons.inj whole).1] at first
          exact absurd first.1 failsOther
      | cons same front =>
          exact ih (List.cons.inj whole).2 first.2 (List.forall_mem_cons.mp holdFront).2

theorem Follows.eq_reject_iff (follows : Follows conditions verdict) (violation : Violation) :
    verdict = .reject violation ↔ ∃ before failing after,
      conditions = before ++ failing :: after ∧ (∀ condition ∈ before, condition.Holds) ∧
        ¬failing.Holds ∧ failing.violation = violation := by
  cases follows with
  | accept hold =>
      apply iff_of_false
      · intro same
        cases same
      · rintro ⟨before, failing, after, rfl, _, fails, _⟩
        exact fails (hold failing (by simp))
  | @reject before after failing hold fails =>
      constructor
      · intro same
        exact ⟨before, failing, after, rfl, hold, fails, Verdict.reject.inj same⟩
      · rintro ⟨front, other, back, whole, holdFront, failsOther, rfl⟩
        rw [eq_of_first_failing whole hold fails holdFront failsOther]

end Verdict

open Verdict

/-! ### The first level -/

theorem follows_judgeHelpers {options : ResolvedOptions} {classes : List Token}
    (mixed : ¬∃ helper ∈ options.helper?, ∀ token ∈ classes, helper.accepts token.value = true) :
    Follows [options.noHelper classes] (judgeHelpers options classes) := by
  rw [judgeHelpers]
  cases on : options.helper? with
  | none => exact follows_of_holds (by simp [ResolvedOptions.noHelper, on])
  | some helper =>
      have notAll : classes.countP (fun token => helper.accepts token.value) ≠ classes.length := by
        intro all
        exact mixed ⟨helper, on, List.countP_eq_length.mp all⟩
      simp only [if_neg notAll]
      split_ifs with helped
      · apply follows_of_fails
        intro holds
        obtain ⟨token, member, accepted⟩ := List.countP_pos_iff.mp helped
        rw [holds helper on token member] at accepted
        cases accepted
      · apply follows_of_holds
        intro other same token member
        cases on.symm.trans same
        by_contra accepted
        exact helped (List.countP_pos_iff.mpr ⟨token, member, by simpa using accepted⟩)

theorem length_componentIndices (options : ResolvedOptions) (classes : List Token) :
    (componentIndices options classes).length =
      classes.countP fun token => options.isComponent token.value := by
  calc
    _ = classes.zipIdx.countP fun item => options.isComponent item.1.value := by
      rw [componentIndices, List.length_map, List.countP_eq_length_filter]
    _ = (classes.zipIdx.map Prod.fst).countP fun token => options.isComponent token.value := by
      rw [List.countP_map]
      rfl
    _ = _ := by rw [List.zipIdx_map_fst]

theorem ne_componentIndex_iff {options : ResolvedOptions} {classes : List Token} {index : Nat}
    (only : componentIndices options classes = [index]) {item : Token × Nat}
    (member : item ∈ classes.zipIdx) :
    item.2 ≠ index ↔ options.isComponent item.1.value = false := by
  have mem_iff (other : Nat) : other ∈ componentIndices options classes ↔ other = index := by
    rw [only, List.mem_singleton]
  rw [← Bool.not_eq_true, not_iff_not, ← mem_iff, componentIndices, List.mem_map]
  constructor
  · intro found
    obtain ⟨other, inside, same⟩ := found
    obtain ⟨stands, component⟩ := List.mem_filter.mp inside
    have entry := List.mem_zipIdx_iff_getElem?.mp stands
    rw [same, List.mem_zipIdx_iff_getElem?.mp member] at entry
    rwa [Option.some.inj entry]
  · intro component
    exact ⟨item, List.mem_filter.mpr ⟨member, component⟩, rfl⟩

theorem map_fst_filter_zipIdx (classes : List Token) (start : Nat) (keep : Token → Bool) :
    ((classes.zipIdx start).filter fun item => keep item.1).map Prod.fst = classes.filter keep := by
  calc
    _ = ((classes.zipIdx start).map Prod.fst).filter keep := (List.filter_map ..).symm
    _ = _ := by rw [List.zipIdx_map_fst]

theorem map_fst_wrong {options : ResolvedOptions} {classes : List Token} {index : Nat}
    (found : componentIndex options classes = .ok index) (wrong : Token → Bool) :
    (classes.zipIdx.filter fun item => item.2 ≠ index && wrong item.1).map Prod.fst =
      (options.besideComponent classes).filter wrong := by
  rw [componentIndex] at found
  rw [ResolvedOptions.besideComponent]
  cases on : options.component? with
  | none =>
      simp only [on, Option.isNone_none, if_true, Except.ok.injEq] at found
      subst found
      cases classes with
      | nil => rfl
      | cons first rest =>
          have later : ∀ item ∈ rest.zipIdx 1,
              (decide (item.2 ≠ 0) && wrong item.1) = wrong item.1 := by
            intro item member
            have := List.le_snd_of_mem_zipIdx member
            simp; omega
          rw [List.zipIdx_cons, List.filter_cons_of_neg (by simp), List.filter_congr later]
          exact map_fst_filter_zipIdx rest 1 wrong
  | some pattern =>
      simp only [on, Option.isNone_some, Bool.false_eq_true, if_false] at found
      split at found
      · cases found
      · rename_i only single
        cases found
        have others : ∀ item ∈ classes.zipIdx,
            (decide (item.2 ≠ index) && wrong item.1) =
              (wrong item.1 && !options.isComponent item.1.value) := by
          intro item member
          rw [Bool.eq_iff_iff]
          simp [← ne_componentIndex_iff single member, and_comm]
        simp only [Option.isSome_some, if_true, List.filter_filter]
        rw [List.filter_congr others]
        exact map_fst_filter_zipIdx classes 0 fun token =>
          wrong token && !options.isComponent token.value
      · cases found

theorem follows_judgeVariants {options : ResolvedOptions} {classes : List Token} {index : Nat}
    (found : componentIndex options classes = .ok index) :
    Follows [options.variantsBeside classes] (judgeVariants options classes index) := by
  rw [judgeVariants]
  cases on : options.variant? with
  | none => exact follows_of_holds (by simp [ResolvedOptions.variantsBeside, on])
  | some variant =>
      have wrong := map_fst_wrong found fun token => !variant.accepts token.value
      have holds_iff : (options.variantsBeside classes).Holds ↔
          (options.besideComponent classes).filter (fun token => !variant.accepts token.value) =
            [] := by
        simp [ResolvedOptions.variantsBeside, on, List.filter_eq_nil_iff]
      rw [← wrong, List.map_eq_nil_iff, ← List.isEmpty_iff] at holds_iff
      dsimp only
      split_ifs with clean
      · exact follows_of_holds (holds_iff.mpr clean)
      · have reported : (options.variantsBeside classes).violation = .variants
            ((classes.zipIdx.filter fun item =>
              item.2 ≠ index && !variant.accepts item.1.value).map fun item => trim item.1.raw) := by
          simp only [ResolvedOptions.variantsBeside, on, Option.any_some, ← wrong, List.map_map]
          rfl
        rw [← reported]
        exact follows_of_fails (fun holds => clean (holds_iff.mp holds)) []

theorem follows_component (options : ResolvedOptions) (classes : List Token) :
    Follows [options.oneComponent classes, options.variantsBeside classes]
      (match componentIndex options classes with
      | .error violation => .reject violation
      | .ok component => judgeVariants options classes component) := by
  have found {index : Nat} (only : componentIndex options classes = .ok index)
      (holds : (options.oneComponent classes).Holds) :
      Follows [options.oneComponent classes, options.variantsBeside classes]
        (judgeVariants options classes index) :=
    (follows_of_holds holds).andThen (follows_judgeVariants only)
  have missing {violation : Violation} (fails : ¬(options.oneComponent classes).Holds)
      (same : (options.oneComponent classes).violation = violation) :
      Follows [options.oneComponent classes, options.variantsBeside classes]
        (.reject violation) := by
    rw [← same]
    exact follows_of_fails fails _
  cases on : options.component? with
  | none =>
      have first : componentIndex options classes = .ok 0 := by
        rw [componentIndex, on]
        rfl
      rw [first]
      exact found first (by simp [ResolvedOptions.oneComponent, on])
  | some pattern =>
      have holds_iff : (options.oneComponent classes).Holds ↔
          (componentIndices options classes).length = 1 := by
        simp [ResolvedOptions.oneComponent, on, length_componentIndices]
      have some_iff : (classes.any fun token => options.isComponent token.value) = true ↔
          0 < (componentIndices options classes).length := by
        rw [length_componentIndices, List.countP_pos_iff, List.any_eq_true]
      cases listed : componentIndices options classes with
      | nil =>
          have refused : componentIndex options classes =
              .error (.componentName (Token.source classes)) := by
            simp [componentIndex, on, listed]
          rw [refused]
          apply missing
          · simp [holds_iff, listed]
          · exact if_neg (by simp [some_iff, listed])
      | cons index more =>
          cases more with
          | nil =>
              have only : componentIndex options classes = .ok index := by
                simp [componentIndex, on, listed]
              rw [only]
              exact found only (by simp [holds_iff, listed])
          | cons other rest =>
              have refused : componentIndex options classes =
                  .error (.tooManyComponents (Token.source classes)) := by
                simp [componentIndex, on, listed]
              rw [refused]
              apply missing
              · simp [holds_iff, listed]
              · exact if_pos (by simp [some_iff, listed])

theorem follows_judgeComponent {options : ResolvedOptions} {level : Level}
    (classes : level.classes ≠ [])
    (mixed : ¬∃ helper ∈ options.helper?,
      ∀ token ∈ level.classes, helper.accepts token.value = true) :
    Follows [options.noHelper level.classes, options.oneComponent level.classes,
      options.variantsBeside level.classes] (judgeComponent options level) := by
  rw [judgeComponent]
  simp only [List.isEmpty_iff, if_neg classes]
  exact (follows_judgeHelpers mixed).andThen (follows_component options level.classes)

theorem judgeComponent_of_exempt {options : ResolvedOptions} {level : Level}
    (exempt : level.classes = [] ∨ ∃ helper ∈ options.helper?,
      ∀ token ∈ level.classes, helper.accepts token.value = true) :
    judgeComponent options level = .exempt := by
  rw [judgeComponent]
  split_ifs with bare
  · rfl
  · rcases exempt with empty | ⟨helper, on, all⟩
    · exact absurd (List.isEmpty_iff.mpr empty) bare
    · have helpers : judgeHelpers options level.classes = .exempt := by
        rw [judgeHelpers, on]
        exact if_pos (List.countP_eq_length.mpr all)
      rw [helpers]
      rfl

/-! ### The levels below and the depth -/

theorem follows_later (options : ResolvedOptions) (rest : List Token) :
    Follows (rest.map options.variantLater)
      (match options.variant?.bind fun variant =>
          rest.find? fun token => !variant.accepts token.value with
      | some wrong => .reject (.variantName wrong.raw)
      | none => .accept) := by
  cases on : options.variant? with
  | none =>
      apply Follows.accept
      intro condition member
      obtain ⟨later, -, rfl⟩ := List.mem_map.mp member
      simp [ResolvedOptions.variantLater, on]
  | some variant =>
      have holds_iff (later : Token) : (options.variantLater later).Holds ↔
          variant.accepts later.value = true := by
        simp [ResolvedOptions.variantLater, on]
      rw [Option.bind_some]
      cases found : rest.find? fun token => !variant.accepts token.value with
      | none =>
          apply Follows.accept
          intro condition member
          obtain ⟨later, inside, rfl⟩ := List.mem_map.mp member
          simpa [holds_iff] using List.find?_eq_none.mp found later inside
      | some wrong =>
          obtain ⟨refused, before, after, rfl, hold⟩ := List.find?_eq_some_iff_append.mp found
          rw [List.map_append, List.map_cons]
          apply Follows.reject
          · intro condition member
            obtain ⟨later, inside, rfl⟩ := List.mem_map.mp member
            simpa [holds_iff] using hold later inside
          · simpa [holds_iff] using refused

theorem variantsAlone_iff (options : ResolvedOptions) {level : Level} {first : Token}
    {rest : List Token} (listed : level.classes = first :: rest) :
    (level.isAllClasses && (options.variant?.any fun variant => variant.accepts first.value) &&
        rest.all fun token => options.variant?.any fun variant => variant.accepts token.value) =
      true ↔ ¬(options.moreThanVariants level).Holds := by
  have member_iff (token : Token) :
      token ∈ first :: rest ↔ token ∈ level.tokens ∧ token.isClass = true := by
    rw [← listed, Level.classes, List.mem_filter]
  cases on : options.variant? with
  | none => simp [ResolvedOptions.moreThanVariants, on]
  | some variant =>
      have holds_iff : (options.moreThanVariants level).Holds ↔
          ¬∀ token ∈ level.tokens, token.isClass = true ∧ variant.accepts token.value = true := by
        simp [ResolvedOptions.moreThanVariants, on]
      have together : (((some variant).any fun variant => variant.accepts first.value) &&
          rest.all fun token => (some variant).any fun variant => variant.accepts token.value) =
            (first :: rest).all fun token => variant.accepts token.value := rfl
      rw [holds_iff, not_not, Bool.and_assoc, together, Bool.and_eq_true, Level.isAllClasses,
        List.all_eq_true, List.all_eq_true]
      constructor
      · intro alone token member
        have named := alone.1 token member
        exact ⟨named, alone.2 token ((member_iff token).mpr ⟨member, named⟩)⟩
      · intro each
        refine ⟨fun token member => (each token member).1, ?_⟩
        intro token member
        exact (each token ((member_iff token).mp member).1).2

theorem refused_iff (options : ResolvedOptions) (level : Level) (first : Token) :
    ((options.element?.any fun element => !element.accepts first.value) &&
        !(!level.isAllClasses &&
          options.variant?.any fun variant => variant.accepts first.value)) = true ↔
      ¬(options.elementFirst level first).Holds := by
  have beside : level.isAllClasses = false ↔ ∃ token ∈ level.tokens, token.isClass = false := by
    rw [Level.isAllClasses, List.all_eq_false]
    simp only [Bool.not_eq_true]
  cases on : options.element? with
  | none => simp [ResolvedOptions.elementFirst, on]
  | some element =>
      simp only [ResolvedOptions.elementFirst, on, ← beside, Option.any_some, Option.mem_def,
        Option.some.injEq, forall_eq', not_or, Bool.and_eq_true, Bool.not_eq_true',
        Bool.not_eq_true]
      cases options.variant? <;> cases level.isAllClasses <;> simp

theorem follows_judgeElement (options : ResolvedOptions) (level : Level) :
    Follows (options.elementConditions level) (judgeElement options level) := by
  rw [ResolvedOptions.elementConditions, judgeElement]
  cases listed : level.classes with
  | nil => exact follows_nil
  | cons first rest =>
      dsimp only
      split_ifs with alone refused
      · exact follows_of_fails ((variantsAlone_iff options listed).mp alone) _
      · have more := not_not.mp (mt (variantsAlone_iff options listed).mpr alone)
        have fails := (refused_iff options level first).mp refused
        exact (follows_of_holds more).andThen (follows_of_fails fails _)
      · have more := not_not.mp (mt (variantsAlone_iff options listed).mpr alone)
        have element := not_not.mp (mt (refused_iff options level first).mpr refused)
        exact (follows_of_holds more).andThen
          ((follows_of_holds element).andThen (follows_later options rest))

theorem follows_judgeDepth (options : ResolvedOptions) {selector : Selector} {component : Level}
    {elements : List Level} (levels : selector.levels = component :: elements) :
    Follows [options.shallow selector elements.length] (judgeDepth options selector) := by
  rw [judgeDepth]
  cases on : options.maxDepth? with
  | none => exact follows_of_holds (by simp [ResolvedOptions.shallow, on])
  | some most =>
      have holds_iff : (options.shallow selector elements.length).Holds ↔
          ¬most < selector.levels.length - 1 := by
        simp [ResolvedOptions.shallow, on, levels]
      dsimp only
      split_ifs with deep
      · exact follows_of_fails (fun holds => holds_iff.mp holds deep) []
      · exact follows_of_holds (holds_iff.mpr deep)

/-! ### Selectors -/

theorem judge_of_exempts {options : ResolvedOptions} {selector : Selector}
    (exempts : options.Exempts selector) : judge options selector = .exempt := by
  rw [judge]
  rw [ResolvedOptions.Exempts] at exempts
  cases levels : selector.levels with
  | nil => rfl
  | cons component elements =>
      rw [levels] at exempts
      dsimp only
      rw [judgeComponent_of_exempt exempts]
      rfl

theorem follows_judge {options : ResolvedOptions} {selector : Selector}
    (checked : ¬options.Exempts selector) :
    Follows (options.conditions selector) (judge options selector) := by
  rw [judge, ResolvedOptions.conditions]
  rw [ResolvedOptions.Exempts] at checked
  cases levels : selector.levels with
  | nil =>
      rw [levels] at checked
      exact absurd trivial checked
  | cons component elements =>
      rw [levels] at checked
      have first := not_or.mp checked
      have below := follows_all (follows_judgeElement options) elements
      exact (follows_judgeComponent first.1 first.2).andThen
        (below.andThen (follows_judgeDepth options levels))

/-- A selector is exempt by its first level, accepted if it meets every condition, and otherwise
rejected for the first condition that it does not meet. -/
theorem judge_first_failing (options : ResolvedOptions) (selector : Selector) :
    (judge options selector = .exempt ↔ options.Exempts selector) ∧
      (judge options selector = .accept ↔ ¬options.Exempts selector ∧
        ∀ condition ∈ options.conditions selector, condition.Holds) ∧
      ∀ violation, judge options selector = .reject violation ↔ ¬options.Exempts selector ∧
        ∃ before failing after, options.conditions selector = before ++ failing :: after ∧
          (∀ condition ∈ before, condition.Holds) ∧ ¬failing.Holds ∧
            failing.violation = violation := by
  by_cases exempts : options.Exempts selector
  · rw [judge_of_exempts exempts]
    simp [exempts]
  · have follows := follows_judge exempts
    refine ⟨iff_of_false follows.ne_exempt exempts, ?_, ?_⟩
    · rw [follows.eq_accept_iff, and_iff_right exempts]
    · intro violation
      rw [follows.eq_reject_iff, and_iff_right exempts]

end ClassLint
