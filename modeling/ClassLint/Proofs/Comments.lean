import ClassLint.Verdict
import ClassLint.Proofs.Levels
import ClassLint.Proofs.Lexing

/-! Comments and verdicts. A verdict looks at the classes of a level and at whether all of its
tokens are classes. A comment is no class, so a level of variants passes for an element with
variants as soon as it holds a comment. Apart from such levels comments change no outcome. -/

namespace ClassLint

/-- A verdict without the texts of its violation. -/
inductive Verdict.Outcome where
  | accept
  | exempt
  | reject (id : Text)
  deriving DecidableEq, Repr

def Verdict.Outcome.andThen : Outcome → Outcome → Outcome
  | .accept, next => next
  | outcome, _ => outcome

namespace Verdict

def outcome : Verdict → Outcome
  | .accept => .accept
  | .exempt => .exempt
  | .reject violation => .reject violation.id

theorem outcome_andThen (first next : Verdict) :
    (first.andThen next).outcome = first.outcome.andThen next.outcome := by
  cases first <;> rfl

theorem outcome_all {α : Type} {judge other : α → Verdict} {items : List α}
    (same : ∀ item ∈ items, (judge item).outcome = (other item).outcome) :
    (Verdict.all (items.map judge)).outcome = (Verdict.all (items.map other)).outcome := by
  induction items with
  | nil => rfl
  | cons item rest ih =>
      obtain ⟨first, others⟩ := List.forall_mem_cons.mp same
      simp only [List.map_cons, Verdict.all, outcome_andThen, first, ih others]

end Verdict

/-! ### Levels -/

namespace ResolvedOptions

def isVariant (options : ResolvedOptions) (token : Token) : Bool :=
  options.variant?.any fun variant => variant.accepts token.value

def refusesElement (options : ResolvedOptions) (token : Token) : Bool :=
  options.element?.any fun element => !element.accepts token.value

def elementOutcome (options : ResolvedOptions) (alone : Bool) : List Token → Verdict.Outcome
  | [] => .accept
  | first :: rest =>
    if alone && options.isVariant first && rest.all options.isVariant then
      .reject "variantWithoutElement"
    else if options.refusesElement first && (alone || !options.isVariant first) then
      .reject "invalidElementName"
    else if options.variant?.isSome && !rest.all options.isVariant then
      .reject "invalidVariantName"
    else .accept

end ResolvedOptions

theorem isSome_wrong (options : ResolvedOptions) (classes : List Token) :
    (options.variant?.bind fun variant =>
      classes.find? fun token => !variant.accepts token.value).isSome =
        (options.variant?.isSome && !classes.all options.isVariant) := by
  cases on : options.variant? with
  | none => rfl
  | some variant =>
      have variants : options.isVariant = fun token => variant.accepts token.value := by
        funext token
        rw [ResolvedOptions.isVariant, on]
        rfl
      rw [variants, List.not_all_eq_any_not, Option.bind_some, Option.isSome_some, Bool.true_and,
        Bool.eq_iff_iff, List.find?_isSome, List.any_eq_true]

theorem outcome_judgeElement (options : ResolvedOptions) (level : Level) :
    (judgeElement options level).outcome =
      options.elementOutcome level.isAllClasses level.classes := by
  rw [judgeElement, ResolvedOptions.elementOutcome.eq_def]
  cases level.classes with
  | nil => rfl
  | cons first rest =>
      -- the three tests of a level, with names for what they ask of a class
      have beside (alone variant : Bool) : (!(!alone && variant)) = (alone || !variant) := by
        cases alone <;> rfl
      let alone := level.isAllClasses
      change (if (alone && options.isVariant first && rest.all options.isVariant) = true then _
        else if (options.refusesElement first && !(!alone && options.isVariant first)) = true then _
        else _ : Verdict).outcome = _
      simp only [beside, ← isSome_wrong]
      split_ifs with hidden refused wrong
      · rfl
      · rfl
      · obtain ⟨token, found⟩ := Option.isSome_iff_exists.mp wrong
        rw [found]
        rfl
      · rw [Option.not_isSome_iff_eq_none.mp wrong]
        rfl

def Level.withoutComments (level : Level) : Level := level.filter fun token => !token.isComment

/-- Apart from comments, of which there are some, the level is classes alone and the first is a
variant. Either all are variants or the first is no element, so that without the comments the level
would be refused for its first class. -/
def Level.hidesVariant (options : ResolvedOptions) (level : Level) : Bool :=
  level.tokens.any Token.isComment && level.withoutComments.isAllClasses &&
    match level.classes with
    | [] => false
    | first :: rest => options.isVariant first &&
        (rest.all options.isVariant || options.refusesElement first)

theorem classes_withoutComments (level : Level) :
    level.withoutComments.classes = level.classes := by
  simp only [Level.classes, Level.withoutComments, Level.filter, List.filter_filter]
  apply List.filter_congr
  intro token _
  cases named : token.isClass with
  | false => rfl
  | true =>
      have kind : token.kind = .className := eq_of_beq named
      simp [Token.isComment, kind]

/-- Whether its classes stand alone counts for a level that starts with a variant, if all others are
variants too or if it would be refused as an element. -/
theorem elementOutcome_beside_iff (options : ResolvedOptions) (first : Token) (rest : List Token) :
    options.elementOutcome false (first :: rest) = options.elementOutcome true (first :: rest) ↔
      (options.isVariant first && (rest.all options.isVariant || options.refusesElement first)) =
        false := by
  -- of the three names it only matters that these two differ
  have distinct : ("invalidVariantName" : Text) ≠ "invalidElementName" := by decide
  simp only [ResolvedOptions.elementOutcome]
  generalize ("invalidVariantName" : Text) = name, ("invalidElementName" : Text) = other,
    ("variantWithoutElement" : Text) = lone at distinct ⊢
  cases variant : options.isVariant first with
  | false => simp
  | true =>
      have on : options.variant?.isSome = true := Option.isSome_of_any variant
      cases rest.all options.isVariant <;> cases options.refusesElement first <;>
        simp [on, distinct]

theorem withoutComments_of_none {level : Level} (none : level.tokens.any Token.isComment = false) :
    level.withoutComments = level := by
  have kept : level.tokens.filter (fun token => !token.isComment) = level.tokens := by
    apply List.filter_eq_self.mpr
    intro token member
    simpa using List.any_eq_false.mp none token member
  rw [Level.withoutComments, Level.filter, kept]

theorem isAllClasses_of_comment {level : Level}
    (commented : level.tokens.any Token.isComment = true) : level.isAllClasses = false := by
  obtain ⟨token, member, comment⟩ := List.any_eq_true.mp commented
  have kind : token.kind = .comment := eq_of_beq comment
  apply List.all_eq_false.mpr
  exact ⟨token, member, by simp [Token.isClass, kind]⟩

theorem outcome_level_withoutComments_iff (options : ResolvedOptions) (level : Level) :
    (judgeElement options level).outcome = (judgeElement options level.withoutComments).outcome ↔
      level.hidesVariant options = false := by
  rw [outcome_judgeElement, outcome_judgeElement, classes_withoutComments, Level.hidesVariant]
  cases commented : level.tokens.any Token.isComment with
  | false => simp [withoutComments_of_none commented]
  | true =>
      rw [isAllClasses_of_comment commented]
      cases level.withoutComments.isAllClasses with
      | false => simp
      | true =>
          cases level.classes with
          | nil => simp [ResolvedOptions.elementOutcome]
          | cons first rest => simpa using elementOutcome_beside_iff options first rest

/-! ### Selectors -/

def levelsOutcome (options : ResolvedOptions) : List Level → Verdict.Outcome
  | [] => .exempt
  | component :: elements =>
    (judgeComponent options component).outcome.andThen
      ((Verdict.all (elements.map (judgeElement options))).outcome.andThen
        (if options.maxDepth?.any (· < elements.length) then .reject "tooDeep" else .accept))

theorem outcome_judgeDepth (options : ResolvedOptions) (selector : Selector) :
    (judgeDepth options selector).outcome =
      if options.maxDepth?.any (· < selector.levels.length - 1) then .reject "tooDeep"
      else .accept := by
  rw [judgeDepth]
  cases options.maxDepth? with
  | none => rfl
  | some most =>
      simp only [Option.any_some, decide_eq_true_eq]
      split_ifs <;> rfl

theorem outcome_judge (options : ResolvedOptions) (selector : Selector) :
    (judge options selector).outcome = levelsOutcome options (levelsIn selector.tokens) := by
  cases tokens : selector.tokens with
  | nil =>
      have none : selector.levels = [] := by
        rw [Selector.levels, tokens]
        rfl
      rw [judge, none]
      rfl
  | cons token rest =>
      rw [← tokens, ← levels_eq_levelsIn (by simp [tokens]), judge, levelsOutcome.eq_def]
      cases levels : selector.levels with
      | nil => rfl
      | cons component elements =>
          simp only [Verdict.outcome_andThen, outcome_judgeDepth, levels, List.length_cons,
            Nat.add_sub_cancel]

theorem levels_tail_eq (selector : Selector) :
    selector.levels.tail = (levelsIn selector.tokens).tail := by
  cases tokens : selector.tokens with
  | nil =>
      rw [Selector.levels, tokens]
      rfl
  | cons token rest => rw [← tokens, levels_eq_levelsIn (by simp [tokens])]

theorem levelsIn_withoutComments (selector : Selector) :
    levelsIn selector.withoutComments.tokens =
      (levelsIn selector.tokens).map Level.withoutComments := by
  apply levelsIn_filter
  intro token joins
  cases kind : token.kind with
  | comment => simp [Token.joins, Token.combinator?, kind] at joins
  | _ => simp [Token.isComment, kind]

theorem judgeComponent_withoutComments (options : ResolvedOptions) (level : Level) :
    judgeComponent options level.withoutComments = judgeComponent options level := by
  rw [judgeComponent, classes_withoutComments, judgeComponent]

/-- Comments change no outcome, unless in a level after the first they hide that a variant stands
alone. -/
theorem judge_withoutComments (options : ResolvedOptions) (selector : Selector)
    (plain : ∀ level ∈ selector.levels.tail, level.hidesVariant options = false) :
    (judge options selector).outcome = (judge options selector.withoutComments).outcome := by
  rw [levels_tail_eq] at plain
  rw [outcome_judge, outcome_judge, levelsIn_withoutComments]
  cases levels : levelsIn selector.tokens with
  | nil => rfl
  | cons component elements =>
      rw [levels] at plain
      have same : ∀ level ∈ elements, (judgeElement options level).outcome =
          (judgeElement options level.withoutComments).outcome := by
        intro level member
        exact (outcome_level_withoutComments_iff options level).mpr (plain level member)
      have each := Verdict.outcome_all same
      rw [List.map_cons, levelsOutcome, levelsOutcome, judgeComponent_withoutComments, each,
        List.map_map, List.length_map]
      rfl

theorem judge_withoutComments_beside_tag :
    ∃ options, ResolvedOptions.resolve {} = .ok options ∧
      (judge options
        ⟨[⟨.className, "my-tool", ".my-tool"⟩, ⟨.comment, "x", "/*x*/"⟩,
          ⟨.combinator .child, ">", " > "⟩, ⟨.tag, "p", "p"⟩, ⟨.comment, "y", "/*y*/"⟩,
          ⟨.className, "-big", ".-big"⟩]⟩).outcome =
      (judge options
        ⟨[⟨.className, "my-tool", ".my-tool"⟩, ⟨.combinator .child, ">", " > "⟩, ⟨.tag, "p", "p"⟩,
          ⟨.className, "-big", ".-big"⟩]⟩).outcome := by
  have run : (ResolvedOptions.resolve {}).map (fun options =>
      (Selector.levels ⟨[⟨.className, "my-tool", ".my-tool"⟩, ⟨.comment, "x", "/*x*/"⟩,
        ⟨.combinator .child, ">", " > "⟩, ⟨.tag, "p", "p"⟩, ⟨.comment, "y", "/*y*/"⟩,
        ⟨.className, "-big", ".-big"⟩]⟩).tail.all fun level => !level.hidesVariant options) =
      .ok true := by decide +kernel
  obtain ⟨options, resolved, plain⟩ := exists_of_map_eq_ok run
  refine ⟨options, resolved, judge_withoutComments options _ ?_⟩
  intro level member
  simpa using List.all_eq_true.mp plain level member

/-- A lone variant is refused, and with a comment behind it the same selector is accepted. -/
theorem judge_accepts_commented_variant :
    Selector.parseList ".foo-bar > .-big/*x*/" =
      .ok [⟨[⟨.className, "foo-bar", ".foo-bar"⟩, ⟨.combinator .child, ">", " > "⟩,
        ⟨.className, "-big", ".-big"⟩, ⟨.comment, "x", "/*x*/"⟩]⟩] ∧
    (ResolvedOptions.resolve {}).map (fun options =>
      (judge options ⟨[⟨.className, "foo-bar", ".foo-bar"⟩, ⟨.combinator .child, ">", " > "⟩,
          ⟨.className, "-big", ".-big"⟩, ⟨.comment, "x", "/*x*/"⟩]⟩,
        judge options (Selector.withoutComments ⟨[⟨.className, "foo-bar", ".foo-bar"⟩,
          ⟨.combinator .child, ">", " > "⟩, ⟨.className, "-big", ".-big"⟩,
          ⟨.comment, "x", "/*x*/"⟩]⟩))) =
      .ok (.accept, .reject (.variantWithoutElement ".-big")) := by
  decide +kernel

end ClassLint
