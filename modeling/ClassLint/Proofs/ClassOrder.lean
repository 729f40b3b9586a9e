import ClassLint.Proofs.Verdicts
import Mathlib.Data.List.Forall2

/-! The order of the classes of the first level. Where the component is checked, every condition on
that level counts or filters its classes, so another order of the same classes is judged alike. -/

namespace ClassLint

def Violation.wrongVariants : Violation → List Text
  | .variantName name => [name]
  | .variantNames names => names
  | _ => []

/-- The same violation of the same wrong variants in any order; other texts may differ. -/
structure Violation.Alike (violation other : Violation) : Prop where
  id : violation.id = other.id
  wrongVariants : violation.wrongVariants.Perm other.wrongVariants

/-- The same outcome, with violations that are alike. -/
inductive Verdict.Alike : Verdict → Verdict → Prop where
  | accept : Alike .accept .accept
  | exempt : Alike .exempt .exempt
  | reject {violation other : Violation} (alike : violation.Alike other) :
      Alike (.reject violation) (.reject other)

structure Condition.Alike (condition other : Condition) : Prop where
  holds : condition.Holds ↔ other.Holds
  violation : condition.violation.Alike other.violation

theorem wrongVariants_variants (names : List Text) :
    (Violation.variants names).wrongVariants = names := by
  rw [Violation.variants.eq_def]
  split <;> rfl

theorem alike_variants {names others : List Text} (perm : names.Perm others) :
    (Violation.variants names).Alike (Violation.variants others) where
  id := by
    have same := perm.length_eq
    rcases names with _ | ⟨name, _ | ⟨next, rest⟩⟩ <;>
      rcases others with _ | ⟨other, _ | ⟨second, more⟩⟩ <;> simp at same <;> rfl
  wrongVariants := by rwa [wrongVariants_variants, wrongVariants_variants]

namespace Verdict

theorem follows_cons_cases {condition : Condition} {conditions : List Condition} {verdict : Verdict}
    (follows : Follows (condition :: conditions) verdict) :
    (condition.Holds ∧ Follows conditions verdict) ∨
      ¬condition.Holds ∧ verdict = .reject condition.violation := by
  generalize whole : condition :: conditions = all at follows
  cases follows with
  | accept hold =>
      rw [← whole] at hold
      obtain ⟨holds, others⟩ := List.forall_mem_cons.mp hold
      exact .inl ⟨holds, .accept others⟩
  | @reject before after failing hold fails =>
      cases before with
      | nil =>
          cases whole
          exact .inr ⟨fails, rfl⟩
      | cons first before =>
          cases whole
          obtain ⟨holds, others⟩ := List.forall_mem_cons.mp hold
          exact .inl ⟨holds, .reject others fails⟩

theorem Follows.alike {conditions others : List Condition} {verdict other : Verdict}
    (alike : List.Forall₂ Condition.Alike conditions others) (first : Follows conditions verdict)
    (second : Follows others other) : verdict.Alike other := by
  induction alike with
  | nil =>
      rw [first.eq_accept_iff.mpr (by simp), second.eq_accept_iff.mpr (by simp)]
      exact .accept
  | cons one rest ih =>
      rcases follows_cons_cases first with ⟨holds, first⟩ | ⟨fails, rfl⟩
      · rcases follows_cons_cases second with ⟨_, second⟩ | ⟨fails, rfl⟩
        · exact ih first second
        · exact absurd (one.holds.mp holds) fails
      · rcases follows_cons_cases second with ⟨holds, _⟩ | ⟨_, rfl⟩
        · exact absurd (one.holds.mpr holds) fails
        · exact .reject one.violation

end Verdict

/-! ### The conditions on the first level -/

section Permuted

variable {options : ResolvedOptions} {classes others : List Token} (perm : classes.Perm others)
include perm

theorem noHelper_perm : (options.noHelper classes).Alike (options.noHelper others) where
  holds := by simp [ResolvedOptions.noHelper, perm.mem_iff]
  violation := ⟨rfl, .refl _⟩

theorem oneComponent_perm :
    (options.oneComponent classes).Alike (options.oneComponent others) where
  holds := by simp [ResolvedOptions.oneComponent, perm.countP_eq]
  violation := by
    have any : (classes.any fun token => options.isComponent token.value) =
        others.any fun token => options.isComponent token.value := by
      rw [Bool.eq_iff_iff, List.any_eq_true, List.any_eq_true]
      simp only [perm.mem_iff]
    simp only [ResolvedOptions.oneComponent, any]
    split
    · exact ⟨rfl, .refl _⟩
    · exact ⟨rfl, .refl _⟩

theorem besideComponent_perm (on : options.component?.isSome = true) :
    (options.besideComponent classes).Perm (options.besideComponent others) := by
  rw [ResolvedOptions.besideComponent, ResolvedOptions.besideComponent, if_pos on, if_pos on]
  exact perm.filter _

theorem variantsBeside_perm (on : options.component?.isSome = true) :
    (options.variantsBeside classes).Alike (options.variantsBeside others) where
  holds := by simp [ResolvedOptions.variantsBeside, (besideComponent_perm perm on).mem_iff]
  violation := alike_variants (((besideComponent_perm perm on).filter _).map _)

theorem exempt_perm :
    (classes = [] ∨ ∃ helper ∈ options.helper?,
        ∀ token ∈ classes, helper.accepts token.value = true) ↔
      others = [] ∨ ∃ helper ∈ options.helper?,
        ∀ token ∈ others, helper.accepts token.value = true := by
  have empty : classes = [] ↔ others = [] := by
    rw [← List.length_eq_zero_iff, perm.length_eq, List.length_eq_zero_iff]
  simp only [empty, perm.mem_iff]

end Permuted

/-- Where the component is checked, the order of the classes of the first level counts for nothing
but the texts cited: the verdict is the same up to the order of wrong variants. -/
theorem judgeComponent_perm (options : ResolvedOptions) (level other : Level)
    (on : options.component?.isSome = true) (perm : level.classes.Perm other.classes) :
    (judgeComponent options level).Alike (judgeComponent options other) := by
  by_cases exempt : level.classes = [] ∨ ∃ helper ∈ options.helper?,
      ∀ token ∈ level.classes, helper.accepts token.value = true
  · rw [judgeComponent_of_exempt exempt, judgeComponent_of_exempt ((exempt_perm perm).mp exempt)]
    exact .exempt
  · have exemptOther := mt (exempt_perm perm).mpr exempt
    have first := follows_judgeComponent (not_or.mp exempt).1 (not_or.mp exempt).2
    have second := follows_judgeComponent (not_or.mp exemptOther).1 (not_or.mp exemptOther).2
    have conditions : List.Forall₂ Condition.Alike
        [options.noHelper level.classes, options.oneComponent level.classes,
          options.variantsBeside level.classes]
        [options.noHelper other.classes, options.oneComponent other.classes,
          options.variantsBeside other.classes] :=
      .cons (noHelper_perm perm) (.cons (oneComponent_perm perm)
        (.cons (variantsBeside_perm perm on) .nil))
    exact first.alike conditions second

/-- Two wrong variants, the second time around a tag and before the component. -/
theorem judgeComponent_perm_wrong :
    ∃ options, ResolvedOptions.resolve {} = .ok options ∧
      judgeComponent options ⟨[⟨.className, "foo-bar", ".foo-bar"⟩, ⟨.className, "x", ".x"⟩,
        ⟨.className, "y", ".y"⟩]⟩ = .reject (.variantNames [".x", ".y"]) ∧
      (judgeComponent options ⟨[⟨.className, "foo-bar", ".foo-bar"⟩, ⟨.className, "x", ".x"⟩,
          ⟨.className, "y", ".y"⟩]⟩).Alike
        (judgeComponent options ⟨[⟨.className, "y", ".y"⟩, ⟨.tag, "p", "p"⟩,
          ⟨.className, "x", ".x"⟩, ⟨.className, "foo-bar", ".foo-bar"⟩]⟩) := by
  have run : (ResolvedOptions.resolve {}).map (fun options => (options.component?.isSome,
      judgeComponent options ⟨[⟨.className, "foo-bar", ".foo-bar"⟩, ⟨.className, "x", ".x"⟩,
        ⟨.className, "y", ".y"⟩]⟩)) = .ok (true, .reject (.variantNames [".x", ".y"])) := by
    decide +kernel
  obtain ⟨options, resolved, same⟩ := exists_of_map_eq_ok run
  obtain ⟨on, verdict⟩ := Prod.mk.inj same
  exact ⟨options, resolved, verdict, judgeComponent_perm options _ _ on (by decide)⟩

-- where the check is off, the class that comes first stands for the component
example : (ResolvedOptions.resolve { component? := some (.enabled false) }).map (fun options =>
    (judgeComponent options ⟨[⟨.className, "x", ".x"⟩, ⟨.className, "-y", ".-y"⟩]⟩,
      judgeComponent options ⟨[⟨.className, "-y", ".-y"⟩, ⟨.className, "x", ".x"⟩]⟩)) =
    .ok (.accept, .reject (.variantName ".x")) := by
  decide +kernel

end ClassLint
