import ClassLint.Verdict
import ClassLint.Proofs.Levels
import Mathlib.Data.List.Basic

/-! Levels of two lists of tokens with a combinator between them. A combinator that descends keeps
the levels of both. One that joins siblings takes the last level before it away. Tokens up to a
sibling combinator therefore count for nothing but the text of the selector. -/

namespace ClassLint

open Segment

/-- The levels of a selector with those tokens; no tokens are one empty level. -/
def levelsOf : List Token → List Level
  | [] => [⟨[]⟩]
  | token :: rest => Selector.levels ⟨token :: rest⟩

theorem levelsOf_eq_levelsIn (tokens : List Token) : levelsOf tokens = levelsIn tokens := by
  cases tokens with
  | nil => rfl
  | cons token rest => exact levels_eq_levelsIn (List.cons_ne_nil token rest)

theorem levels_append_cons (front back : List Token) (token : Token) :
    Selector.levels ⟨front ++ token :: back⟩ = levelsIn (front ++ token :: back) :=
  levels_eq_levelsIn (by simp)

/-! ### Tokens without a combinator between levels -/

namespace Segment

variable {α : Type} {separates : α → Bool}

theorem parts_of_none {list : List α} (none : ∀ item ∈ list, separates item = false) :
    parts separates list = [.run list] := by
  induction list with
  | nil => rfl
  | cons item rest ih =>
      obtain ⟨first, others⟩ := List.forall_mem_cons.mp none
      rw [parts_cons_item rest first, ih others]
      rfl

theorem separates_of_mem_run {list items : List α} (run : .run items ∈ parts separates list) :
    ∀ item ∈ items, separates item = false := by
  induction list generalizing items with
  | nil =>
      cases List.mem_singleton.mp run
      simp
  | cons item rest ih =>
      cases answer : separates item with
      | true =>
          rw [parts_cons_separator rest answer] at run
          rcases List.mem_cons.mp run with same | later
          · cases same
            simp
          · exact ih (by simpa using later)
      | false =>
          obtain ⟨first, segments, same⟩ := exists_parts separates rest
          rw [parts_cons_item rest answer, same] at run
          rw [same] at ih
          rcases List.mem_cons.mp run with whole | later
          · cases whole
            exact List.forall_mem_cons.mpr ⟨answer, ih List.mem_cons_self⟩
          · exact ih (List.mem_cons_of_mem _ later)

end Segment

theorem levelsIn_of_none {tokens : List Token} (none : ∀ token ∈ tokens, token.descends = false) :
    levelsIn tokens = [lastCompound tokens] := by
  rw [levelsIn, parts_of_none none]
  rfl

theorem levelsIn_ne_nil (tokens : List Token) : levelsIn tokens ≠ [] := by
  obtain ⟨first, segments, same⟩ := exists_parts Token.descends tokens
  rw [levelsIn, same]
  simp [Segment.run?]

/-- Tokens are one level, or a level before a combinator that descends, and more tokens. -/
theorem level_induction {motive : List Token → Prop}
    (one : ∀ tokens : List Token, (∀ token ∈ tokens, token.descends = false) → motive tokens)
    (more : ∀ (front : List Token) (token : Token) (back : List Token),
      (∀ token ∈ front, token.descends = false) → token.descends = true → motive back →
        motive (front ++ token :: back)) (tokens : List Token) : motive tokens := by
  cases found : tokens.find? Token.descends with
  | none => exact one tokens (by simpa using found)
  | some token =>
      obtain ⟨descends, front, back, same, none⟩ := List.find?_eq_some_iff_append.mp found
      have shorter : back.length < tokens.length := by simp [same]; omega
      rw [same]
      exact more front token back (by simpa using none) descends (level_induction one more back)
termination_by tokens.length

theorem lastCompound_append_joins {token : Token} (joins : token.joins = true)
    (front back : List Token) : lastCompound (front ++ token :: back) = lastCompound back := by
  obtain ⟨first, segments, same⟩ := exists_parts Token.joins back
  rw [lastCompound_eq, lastCompound_eq, parts_append_separator front back joins, same,
    List.getLast?_append_of_ne_nil _ (List.cons_ne_nil _ _), List.getLast?_cons_cons]

theorem joins_of_mem_lastCompound {tokens : List Token} :
    ∀ token ∈ (lastCompound tokens).tokens, token.joins = false := by
  rw [lastCompound_eq]
  cases last : (parts Token.joins tokens).getLast? with
  | none => simp
  | some segment =>
      have member := List.mem_of_getLast? last
      cases segment with
      | run items => exact separates_of_mem_run member
      | separator item => simp [Segment.run?]

/-! ### Composition -/

/-- A sibling combinator takes away the last level before it. -/
theorem levelsIn_append_sibling {token : Token} (joins : token.joins = true)
    (level : token.descends = false) (front back : List Token) :
    levelsIn (front ++ token :: back) = (levelsIn front).dropLast ++ levelsIn back := by
  -- in front of the combinator only the last level matters, behind it only the first
  induction front using level_induction with
  | one front none =>
      rw [levelsIn_of_none none, List.dropLast_singleton, List.nil_append]
      have joined (rest : List Token) (others : ∀ token ∈ rest, token.descends = false) :
          levelsIn (front ++ token :: rest) = levelsIn rest := by
        have all : ∀ other ∈ front ++ token :: rest, other.descends = false :=
          List.forall_mem_append.mpr ⟨none, List.forall_mem_cons.mpr ⟨level, others⟩⟩
        rw [levelsIn_of_none all, levelsIn_of_none others, lastCompound_append_joins joins]
      induction back using level_induction with
      | one back others => exact joined back others
      | more middle other back others descends _ =>
          rw [← List.cons_append, ← List.append_assoc, levelsIn_append_descends descends,
            levelsIn_append_descends descends, joined middle others]
  | more first other front none descends ih =>
      rw [List.append_assoc, List.cons_append, levelsIn_append_descends descends,
        levelsIn_append_descends descends, ih,
        List.dropLast_append_of_ne_nil (levelsIn_ne_nil front), List.append_assoc]

theorem length_levelsIn (tokens : List Token) :
    (levelsIn tokens).length = tokens.countP Token.descends + 1 := by
  induction tokens using level_induction with
  | one tokens none =>
      rw [levelsIn_of_none none, List.countP_eq_zero.mpr (by simpa using none)]
      rfl
  | more front token back none descends ih =>
      rw [levelsIn_append_descends descends, levelsIn_of_none none, List.countP_append,
        List.countP_cons_of_pos descends, List.countP_eq_zero.mpr (by simpa using none),
        List.length_append, ih, List.length_singleton]
      omega

theorem plain_of_mem_levels {selector : Selector} {level : Level}
    (member : level ∈ selector.levels) : ∀ token ∈ level.tokens, token.joins = false := by
  obtain ⟨tokens, -, rfl⟩ := List.mem_map.mp member
  exact joins_of_mem_lastCompound

/-- What stands between the start of a level, or another sibling, and a sibling combinator is in no
level. -/
theorem levelsIn_drop_siblings {front middle : List Token} {token : Token}
    (starts : ∀ last ∈ front.getLast?, last.joins = true)
    (none : ∀ token ∈ middle, token.descends = false) (joins : token.joins = true)
    (level : token.descends = false) (back : List Token) :
    levelsIn (front ++ (middle ++ token :: back)) = levelsIn (front ++ back) := by
  have dropped : levelsIn (middle ++ token :: back) = levelsIn back := by
    rw [levelsIn_append_sibling joins level, levelsIn_of_none none]
    rfl
  rcases List.eq_nil_or_concat' front with rfl | ⟨front, last, rfl⟩
  · exact dropped
  · have behind (rest : List Token) : front ++ [last] ++ rest = front ++ last :: rest := by simp
    rw [behind, behind]
    have divides := starts last (by simp)
    cases descends : last.descends with
    | true =>
        rw [levelsIn_append_descends descends, levelsIn_append_descends descends, dropped]
    | false =>
        rw [levelsIn_append_sibling divides descends, levelsIn_append_sibling divides descends,
          dropped]

/-! ### Verdicts -/

theorem judge_eq_levelsIn (options : ResolvedOptions) (selector : Selector) :
    judge options selector =
      match levelsIn selector.tokens with
      | [] => .exempt
      | component :: elements => (judgeComponent options component).andThen
          ((Verdict.all (elements.map (judgeElement options))).andThen
            (if options.maxDepth?.any (· < elements.length) then .reject (.tooDeep selector.text)
            else .accept)) := by
  cases tokens : selector.tokens with
  | nil =>
      have none : selector.levels = [] := by
        rw [Selector.levels, tokens]
        rfl
      rw [judge, none]
      rfl
  | cons token rest =>
      rw [← tokens, ← levels_eq_levelsIn (by simp [tokens]), judge]
      cases levels : selector.levels with
      | nil => rfl
      | cons component elements =>
          rw [judgeDepth, levels]
          cases options.maxDepth? <;> simp

/-- A verdict looks at the levels, and beside them only to cite a selector that is too deep. -/
theorem judge_of_levelsIn_eq {selector other : Selector}
    (same : levelsIn selector.tokens = levelsIn other.tokens) (options : ResolvedOptions) :
    judge options selector = judge options other ∨
      judge options selector = .reject (.tooDeep selector.text) ∧
        judge options other = .reject (.tooDeep other.text) := by
  rw [judge_eq_levelsIn, judge_eq_levelsIn, same]
  cases levelsIn other.tokens with
  | nil => exact .inl rfl
  | cons component elements =>
      dsimp only
      cases judgeComponent options component with
      | exempt | reject _ => exact .inl rfl
      | accept =>
          cases Verdict.all (elements.map (judgeElement options)) with
          | exempt | reject _ => exact .inl rfl
          | accept =>
              cases options.maxDepth?.any (· < elements.length) with
              | false => exact .inl rfl
              | true => exact .inr ⟨rfl, rfl⟩

/-! ### The laws -/

theorem combinator?_eq_none {token : Token} (plain : token.joins = false) :
    token.combinator? = none := by
  simpa [Token.joins] using plain

theorem descends_of_combinator {token : Token}
    (combinator : token.combinator? = some .descendant ∨ token.combinator? = some .child) :
    token.descends = true := by
  rcases combinator with descendant | child
  · rw [Token.descends, descendant]
  · rw [Token.descends, child]

theorem joins_of_sibling {token : Token}
    (sibling : token.combinator? = some .nextSibling ∨
      token.combinator? = some .subsequentSibling) :
    token.joins = true ∧ token.descends = false := by
  rw [Token.joins, Token.descends]
  rcases sibling with next | subsequent
  · simp [next]
  · simp [subsequent]

/-- A descendant or child combinator puts the levels of both sides together, and a sibling
combinator without the last level before it. So no level holds a combinator, there is one more level
than combinators that descend, and what stands up to a sibling combinator, from the start or from
another combinator, changes a verdict only by the text of a selector that is too deep. -/
theorem levels_compose :
    (∀ (front back : List Token) (token : Token),
      token.combinator? = some .descendant ∨ token.combinator? = some .child →
        Selector.levels ⟨front ++ token :: back⟩ = levelsOf front ++ levelsOf back) ∧
    (∀ (front back : List Token) (token : Token),
      token.combinator? = some .nextSibling ∨ token.combinator? = some .subsequentSibling →
        Selector.levels ⟨front ++ token :: back⟩ =
          (levelsOf front).dropLast ++ levelsOf back) ∧
    (∀ (selector : Selector), ∀ level ∈ selector.levels, ∀ token ∈ level.tokens,
      token.combinator? = none) ∧
    (∀ selector : Selector, selector.tokens ≠ [] →
      selector.levels.length = selector.tokens.countP Token.descends + 1) ∧
    ∀ (options : ResolvedOptions) (front middle back : List Token) (token : Token),
      (∀ last ∈ front.getLast?, last.combinator?.isSome = true) →
      (∀ inside ∈ middle, inside.descends = false) →
      token.combinator? = some .nextSibling ∨ token.combinator? = some .subsequentSibling →
        judge options ⟨front ++ (middle ++ token :: back)⟩ = judge options ⟨front ++ back⟩ ∨
          judge options ⟨front ++ (middle ++ token :: back)⟩ =
              .reject (.tooDeep (Selector.text ⟨front ++ (middle ++ token :: back)⟩)) ∧
            judge options ⟨front ++ back⟩ =
              .reject (.tooDeep (Selector.text ⟨front ++ back⟩)) := by
  refine ⟨?_, ?_, ?_, ?_, ?_⟩
  · intro front back token combinator
    rw [levels_append_cons, levelsIn_append_descends (descends_of_combinator combinator),
      levelsOf_eq_levelsIn, levelsOf_eq_levelsIn]
  · intro front back token sibling
    obtain ⟨joins, level⟩ := joins_of_sibling sibling
    rw [levels_append_cons, levelsIn_append_sibling joins level, levelsOf_eq_levelsIn,
      levelsOf_eq_levelsIn]
  · intro selector level member token inside
    exact combinator?_eq_none (plain_of_mem_levels member token inside)
  · intro selector nonempty
    rw [levels_eq_levelsIn nonempty, length_levelsIn]
  · intro options front middle back token starts none sibling
    obtain ⟨joins, level⟩ := joins_of_sibling sibling
    exact judge_of_levelsIn_eq (levelsIn_drop_siblings starts none joins level back) options

/-- The two combinators of `.a ~ .b > .c`, and its first level without the sibling. -/
theorem levels_compose_siblings :
    (Selector.levels ⟨[⟨.className, "a", ".a"⟩, ⟨.combinator .subsequentSibling, "~", " ~ "⟩,
        ⟨.className, "b", ".b"⟩] ++ ⟨.combinator .child, ">", " > "⟩ ::
          [⟨.className, "c", ".c"⟩]⟩ =
      levelsOf [⟨.className, "a", ".a"⟩, ⟨.combinator .subsequentSibling, "~", " ~ "⟩,
        ⟨.className, "b", ".b"⟩] ++ levelsOf [⟨.className, "c", ".c"⟩]) ∧
    (Selector.levels ⟨[⟨.className, "a", ".a"⟩] ++
        ⟨.combinator .subsequentSibling, "~", " ~ "⟩ :: [⟨.className, "b", ".b"⟩,
          ⟨.combinator .child, ">", " > "⟩, ⟨.className, "c", ".c"⟩]⟩ =
      (levelsOf [⟨.className, "a", ".a"⟩]).dropLast ++ levelsOf [⟨.className, "b", ".b"⟩,
        ⟨.combinator .child, ">", " > "⟩, ⟨.className, "c", ".c"⟩]) ∧
    (Selector.levels ⟨[⟨.className, "a", ".a"⟩, ⟨.combinator .subsequentSibling, "~", " ~ "⟩,
        ⟨.className, "b", ".b"⟩, ⟨.combinator .child, ">", " > "⟩,
        ⟨.className, "c", ".c"⟩]⟩).length = 2 ∧
    (judge ⟨none, none, none, none, some 0, []⟩ ⟨[] ++ ([⟨.className, "a", ".a"⟩] ++
        ⟨.combinator .subsequentSibling, "~", " ~ "⟩ :: [⟨.className, "b", ".b"⟩,
          ⟨.combinator .child, ">", " > "⟩, ⟨.className, "c", ".c"⟩])⟩ =
        .reject (.tooDeep ".a ~ .b > .c") ∧
      judge ⟨none, none, none, none, some 0, []⟩ ⟨[] ++ [⟨.className, "b", ".b"⟩,
          ⟨.combinator .child, ">", " > "⟩, ⟨.className, "c", ".c"⟩]⟩ =
        .reject (.tooDeep ".b > .c")) := by
  obtain ⟨descends, sibling, -, count, verdict⟩ := levels_compose
  refine ⟨descends _ _ _ (.inr rfl), sibling _ _ _ (.inr rfl), count _ (by simp), ?_⟩
  rcases verdict ⟨none, none, none, none, some 0, []⟩ [] [⟨.className, "a", ".a"⟩]
    [⟨.className, "b", ".b"⟩, ⟨.combinator .child, ">", " > "⟩, ⟨.className, "c", ".c"⟩]
    ⟨.combinator .subsequentSibling, "~", " ~ "⟩ (by simp) (by decide) (.inr rfl) with same | deep
  · exact absurd same (by decide +kernel)
  · exact deep

end ClassLint
