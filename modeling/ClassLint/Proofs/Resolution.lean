import ClassLint.Nesting
import ClassLint.Proofs.Journal
import Mathlib.Algebra.BigOperators.Group.List.Basic

/-! Resolution of nested selectors. Texts are joined from the inside out, before it is known what
the outer ones resolve to; the lemmas here read the same result from the outside in, as a selector
put below each whole resolution of its nearest ancestor. -/

namespace ClassLint

open Journaled

/-- The comma list that a node has for the rules inside it: that of a rule, and that of an at-rule
for nesting in whatever letters its name is written. -/
def Node.commaList? : Node → Option Text
  | .rule head _ => some head.selector
  | .atBlock head _ | .atStatement head =>
    if head.name.map Char.toLower = "nest".toList then some head.params else none
  | .declaration _ | .comment _ => none

theorem selectors?_eq_map_commaList? (node : Node) :
    node.selectors? = node.commaList?.map selectorTexts := by
  have nest (name : Text) :
      sameLetters name "nest" = true ↔ name.map Char.toLower = "nest".toList := by
    have letters : "nest".toList.map Char.toLower = "nest".toList := by decide
    rw [sameLetters, letters, beq_iff_eq]
  cases node with
  | rule head children => rfl
  | atBlock head children =>
      simp only [Node.selectors?, Node.commaList?, nest]
      split <;> rfl
  | atStatement head =>
      simp only [Node.selectors?, Node.commaList?, nest]
      split <;> rfl
  | declaration declaration => rfl
  | comment comment => rfl

/-- A selector below a resolved parent, which takes the place of every nesting mark or else stands
in front. -/
def placeBelow (selector parent : Text) : Text :=
  if '&' ∈ selector then selector.flatMap fun c => if c = '&' then parent else [c]
  else parent ++ ' ' :: selector

/-- Every resolution of a selector, from those of the nearest list of its lineage. -/
def resolutions (selector : Text) : Lineage → List Text
  | [] => [selector]
  | parents :: outer =>
    (parents.flatMap fun parent => resolutions parent outer).map (placeBelow selector)

theorem hasNesting_iff (selector : Text) : hasNesting selector = true ↔ '&' ∈ selector := by
  simp [hasNesting, nestingMark]

theorem substituteNesting_eq_flatMap (selector parent : Text) :
    substituteNesting selector parent =
      selector.flatMap fun c => if c = '&' then parent else [c] := by
  induction selector with
  | nil => rfl
  | cons c rest ih =>
      rw [substituteNesting, List.flatMap_cons, ih, nestingMark]
      split <;> rfl

theorem placeBelow_of_nesting (selector : Text) (nested : hasNesting selector = true) :
    placeBelow selector = substituteNesting selector := by
  funext parent
  rw [placeBelow, if_pos ((hasNesting_iff selector).mp nested), substituteNesting_eq_flatMap]

theorem placeBelow_of_plain (selector : Text) (plain : hasNesting selector = false)
    (parent : Text) :
    placeBelow selector parent = joinDescendant parent selector := by
  have absent : '&' ∉ selector := by
    rw [← hasNesting_iff, plain]
    decide
  rw [placeBelow, if_neg absent, joinDescendant]

theorem substituteNesting_of_plain (selector parent : Text) (plain : hasNesting selector = false) :
    substituteNesting selector parent = selector := by
  induction selector with
  | nil => rfl
  | cons c rest ih =>
      simp only [hasNesting, List.contains_cons, Bool.or_eq_false_iff, beq_eq_false_iff_ne] at plain
      rw [substituteNesting, if_neg (Ne.symm plain.1), ih plain.2]

theorem substituteNesting_append (front back parent : Text) :
    substituteNesting (front ++ back) parent =
      substituteNesting front parent ++ substituteNesting back parent := by
  simp only [substituteNesting_eq_flatMap, List.flatMap_append]

theorem hasNesting_joinDescendant_of_plain (parent selector : Text)
    (plain : hasNesting selector = false) :
    hasNesting (joinDescendant parent selector) = hasNesting parent := by
  rw [hasNesting_joinDescendant, plain, Bool.or_false]

theorem placeBelow_joinDescendant (parent selector outer : Text)
    (plain : hasNesting selector = false) :
    placeBelow (joinDescendant parent selector) outer =
      placeBelow selector (placeBelow parent outer) := by
  have marks := hasNesting_joinDescendant_of_plain parent selector plain
  rw [placeBelow_of_plain selector plain]
  cases nested : hasNesting parent with
  | true =>
      rw [placeBelow_of_nesting _ (marks.trans nested), placeBelow_of_nesting parent nested]
      rw [joinDescendant, substituteNesting_append, substituteNesting, if_neg (by decide),
        substituteNesting_of_plain selector outer plain, joinDescendant]
  | false =>
      rw [placeBelow_of_plain _ (marks.trans nested), placeBelow_of_plain parent nested]
      simp only [joinDescendant, List.append_assoc, List.cons_append]

/-- Joining a plain selector onto a parent first and resolving then is as good as putting it below
the resolved parent. -/
theorem resolutions_joinDescendant (parent selector : Text) (lineage : Lineage)
    (plain : hasNesting selector = false) :
    resolutions (joinDescendant parent selector) lineage =
      (resolutions parent lineage).map (placeBelow selector) := by
  cases lineage with
  | nil => simp only [resolutions, List.map_cons, List.map_nil, placeBelow_of_plain selector plain]
  | cons parents outer =>
      simp only [resolutions, List.map_map]
      apply List.map_congr_left
      intro resolved _
      exact placeBelow_joinDescendant parent selector resolved plain

theorem answers_resolveOutermost (selector : Text) :
    Answers (resolveOutermost selector) selector := by
  unfold resolveOutermost
  split
  · exact answers_after _ fun _ => answers_pure selector
  · exact answers_pure selector

theorem answers_resolveAllFrom (selector : Text) (lineage : Lineage) :
    Answers (resolveAllFrom (hasNesting selector) selector lineage)
      (resolutions selector lineage) := by
  induction lineage generalizing selector with
  | nil => exact answers_bind (answers_resolveOutermost selector) (answers_pure _)
  | cons parents outer ih =>
      rw [resolveAllFrom, resolutions, List.map_flatMap, List.flatMap_def]
      refine answers_bind (answers_mapM parents ?_) (answers_pure _)
      intro parent _
      cases nested : hasNesting selector with
      | true =>
          rw [placeBelow_of_nesting selector nested]
          exact answers_bind (ih parent) (answers_pure _)
      | false =>
          -- The flag handed on is that of the parent, which is that of the joined text.
          rw [← resolutions_joinDescendant parent selector outer nested,
            ← hasNesting_joinDescendant_of_plain parent selector nested]
          exact ih (joinDescendant parent selector)

theorem answers_resolveAll (selector : Text) (lineage : Lineage) :
    Answers (resolveAll selector lineage) (resolutions selector lineage) :=
  answers_resolveAllFrom selector lineage

theorem length_resolutions (selector : Text) (lineage : Lineage) :
    (resolutions selector lineage).length = (lineage.map List.length).prod := by
  induction lineage generalizing selector with
  | nil => rfl
  | cons parents outer ih =>
      rw [resolutions, List.length_map, List.length_flatMap, List.map_cons, List.prod_cons]
      simp only [ih, List.map_const', List.sum_replicate_nat]

theorem resolutions_eq_nil_iff (selector : Text) (lineage : Lineage) :
    resolutions selector lineage = [] ↔ [] ∈ lineage := by
  rw [← List.length_eq_zero_iff, length_resolutions, List.prod_eq_zero_iff_exists_zero_nat]
  constructor
  · rintro ⟨count, member, rfl⟩
    obtain ⟨parents, inside, empty⟩ := List.mem_map.mp member
    rwa [List.length_eq_zero_iff.mp empty] at inside
  · intro inside
    exact ⟨0, List.mem_map.mpr ⟨[], inside, rfl⟩, rfl⟩

/-- The first parent decides: were its resolutions empty, so would be those of all others. -/
theorem head?_resolutions_cons (selector parent : Text) (others : List Text) (outer : Lineage) :
    (resolutions selector ((parent :: others) :: outer)).head? =
      (resolutions parent outer).head?.map (placeBelow selector) := by
  rw [resolutions, List.head?_map, List.flatMap_cons]
  cases first : resolutions parent outer with
  | cons resolved rest => rfl
  | nil =>
      have missing : [] ∈ outer := (resolutions_eq_nil_iff parent outer).mp first
      have none : others.flatMap (fun other => resolutions other outer) = [] := by
        apply List.flatMap_eq_nil_iff.mpr
        intro other _
        exact (resolutions_eq_nil_iff other outer).mpr missing
      rw [none]
      rfl

theorem answers_resolveFirstFrom (selector : Text) (lineage : Lineage) :
    Answers (resolveFirstFrom (hasNesting selector) selector lineage)
      (resolutions selector lineage).head? := by
  induction lineage generalizing selector with
  | nil => exact answers_bind (answers_resolveOutermost selector) (answers_pure _)
  | cons parents outer ih =>
      cases parents with
      | nil => exact answers_pure none
      | cons parent others =>
          rw [head?_resolutions_cons, resolveFirstFrom]
          cases nested : hasNesting selector with
          | true =>
              rw [placeBelow_of_nesting selector nested]
              exact answers_bind (ih parent) (answers_pure _)
          | false =>
              rw [← List.head?_map, ← resolutions_joinDescendant parent selector outer nested,
                ← hasNesting_joinDescendant_of_plain parent selector nested]
              exact ih (joinDescendant parent selector)

theorem answers_resolveFirst (selector : Text) (lineage : Lineage) :
    Answers (resolveFirst selector lineage) (resolutions selector lineage).head? :=
  answers_resolveFirstFrom selector lineage

theorem ofAncestors_eq_map_commaList? (ancestors : List Node) :
    Lineage.ofAncestors ancestors = (ancestors.filterMap Node.commaList?).map selectorTexts := by
  rw [Lineage.ofAncestors, List.map_filterMap]
  exact congrArg (List.filterMap · ancestors) (funext selectors?_eq_map_commaList?)

/-- What the nearest ancestor with a comma list resolves to, if there is one. The ancestors are
given nearest first. -/
def nearestResolutions (journal : Journal) : List Node → Option (List Text)
  | [] => none
  | node :: outer =>
    match node.commaList? with
    | some list => some ((selectorTexts list).flatMap fun selector =>
        (resolveAll selector (.ofAncestors outer)).answer journal)
    | none => nearestResolutions journal outer

/-- One more ancestor, the nearest: its list supplies the parents if it has one, and it changes
nothing if it has none. -/
theorem resolutions_ofAncestors_cons (selector : Text) (parent : Node) (outer : List Node) :
    resolutions selector (.ofAncestors (parent :: outer)) =
      match parent.commaList? with
      | some list => ((selectorTexts list).flatMap fun other =>
          resolutions other (.ofAncestors outer)).map (placeBelow selector)
      | none => resolutions selector (.ofAncestors outer) := by
  rw [Lineage.ofAncestors, List.filterMap_cons, selectors?_eq_map_commaList?]
  cases parent.commaList? <;> rfl

theorem resolutions_eq_nearest (selector : Text) (ancestors : List Node) (journal : Journal) :
    resolutions selector (.ofAncestors ancestors) =
      match nearestResolutions journal ancestors with
      | some resolved => resolved.map (placeBelow selector)
      | none => [selector] := by
  induction ancestors with
  | nil => rfl
  | cons node outer ih =>
      rw [resolutions_ofAncestors_cons, nearestResolutions]
      cases node.commaList? with
      | none => exact ih
      | some list =>
          simp only [answers_resolveAll _ _ journal]

/-- Resolution is compositional: a selector is put below every whole resolution of its parent, and
the rest of the ancestors counts for nothing else. The ancestors are given nearest first. -/
theorem resolveAll_compositional (selector : Text) (journal later : Journal) :
    (∀ (parent : Node) (outer : List Node),
      (resolveAll selector (.ofAncestors (parent :: outer))).answer journal =
        match parent.commaList? with
        | some list => ((selectorTexts list).flatMap fun other =>
            (resolveAll other (.ofAncestors outer)).answer later).map (placeBelow selector)
        | none => (resolveAll selector (.ofAncestors outer)).answer later) ∧
    ∀ ancestors : List Node,
      (resolveAll selector (.ofAncestors ancestors)).answer journal =
        match nearestResolutions later ancestors with
        | some resolved => resolved.map (placeBelow selector)
        | none => [selector] := by
  constructor
  · intro parent outer
    simp only [answers_resolveAll _ _ journal, answers_resolveAll _ _ later]
    exact resolutions_ofAncestors_cons selector parent outer
  · intro ancestors
    rw [answers_resolveAll _ _ journal]
    exact resolutions_eq_nearest selector ancestors later

/-- The first resolution, found without the others, is the first of them all. There are as many as
ways to choose a selector from every list above, so there is none exactly if a list is empty. -/
theorem resolveFirst_agrees_with_resolveAll (selector : Text) (ancestors : List Node)
    (journal later : Journal) :
    let lists := ancestors.filterMap Node.commaList?
    let all := (resolveAll selector (.ofAncestors ancestors)).answer journal
    let first? := (resolveFirst selector (.ofAncestors ancestors)).answer later
    all.length = (lists.map fun list => (selectorTexts list).length).prod ∧
      first? = all.head? ∧
      (first? = none ↔ ∃ list ∈ lists, selectorTexts list = []) := by
  intro lists all first?
  have every : all = resolutions selector (.ofAncestors ancestors) :=
    answers_resolveAll selector _ journal
  have first : first? = all.head? := by
    rw [every]
    exact answers_resolveFirst selector _ later
  have lineage : Lineage.ofAncestors ancestors = lists.map selectorTexts :=
    ofAncestors_eq_map_commaList? ancestors
  refine ⟨?_, first, ?_⟩
  · rw [every, length_resolutions, lineage, List.map_map]
    rfl
  · rw [first, List.head?_eq_none_iff, every, resolutions_eq_nil_iff, lineage, List.mem_map]

end ClassLint
