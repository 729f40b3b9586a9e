import ClassLint.Proofs.Chains
import ClassLint.Proofs.Levels
import Mathlib.Data.List.Chain

/-! The shape of selectors that were read. Comments apart, combinators stand alone between other
tokens; only a combinator with a mark of its own can also lead or trail. No comment stands between a
combinator and what follows it. -/

namespace ClassLint

def Combinator.WrittenAs (combinator : Combinator) (raw : Text) : Prop :=
  if combinator = .descendant then raw ≠ [] ∧ AllBlank raw
  else ∃ before behind,
    AllBlank before ∧ AllBlank behind ∧ raw = before ++ combinator.mark :: behind

structure Selector.WellShaped (selector : Selector) : Prop where
  nonempty : selector.tokens ≠ []
  apart : selector.withoutComments.tokens.IsChain fun token next =>
    ¬(token.joins = true ∧ next.joins = true)
  leading : ∀ token ∈ selector.withoutComments.tokens.head?,
    token.combinator? ≠ some .descendant
  trailing : ∀ token ∈ selector.withoutComments.tokens.getLast?,
    token.combinator? ≠ some .descendant
  followed : selector.tokens.IsChain fun token next =>
    token.joins = true → next.isComment = false
  written : ∀ token ∈ selector.tokens, ∀ combinator ∈ token.combinator?,
    token.value = [combinator.mark] ∧ combinator.WrittenAs token.raw

/-! ### Gaps -/

theorem gapTokens_cases (after : Bool) {gap : Option Gap} (formed : Gap.Formed gap) :
    Gap.tokens after gap = [] ∨ ∃ combinator raw,
      Gap.tokens after gap = [.ofCombinator combinator raw] ∧ combinator.WrittenAs raw ∧
        (combinator = .descendant → after = true) := by
  rcases gap with _ | ⟨_ | combinator, raw⟩
  · exact .inl rfl
  · cases after with
    | false => exact .inl rfl
    | true =>
        have blanks : raw ≠ [] ∧ AllBlank raw := formed_some.mp formed
        exact .inr ⟨.descendant, raw, rfl, (if_pos rfl).mpr blanks, fun _ => rfl⟩
  · have whole := formed_some.mp formed
    refine .inr ⟨combinator, raw, rfl, (if_neg whole.1).mpr whole.2, ?_⟩
    intro descendant
    exact absurd descendant whole.1

theorem closing_cases_of_formed {gap : Option Gap} (formed : Gap.Formed gap) :
    Gap.closing gap = [] ∨ ∃ combinator raw,
      Gap.closing gap = [.ofCombinator combinator raw] ∧ combinator.WrittenAs raw ∧
        combinator ≠ .descendant := by
  rw [← gapTokens_false]
  rcases gapTokens_cases false formed with nothing | ⟨combinator, raw, same, written, first⟩
  · exact .inl nothing
  · exact .inr ⟨combinator, raw, same, written, fun descendant => absurd (first descendant) (by simp)⟩

/-! ### Chains -/

theorem filter_not_isComment_token {after : Bool} {gap : Option Gap} {token : Token}
    (named : token.isComment = false) (tokens : List Token) :
    (Gap.tokens after gap ++ token :: tokens).filter (fun token => !token.isComment) =
      Gap.tokens after gap ++ token :: tokens.filter fun token => !token.isComment := by
  rw [List.filter_append, List.filter_cons_of_pos (by simp [named])]
  rcases gap with _ | ⟨_ | combinator, raw⟩ <;> cases after <;> rfl

namespace Chain

variable {after : Bool} {tokens : List Token}

theorem apart (chain : Chain after tokens) :
    (tokens.filter fun token => !token.isComment).IsChain fun token next =>
      ¬(token.joins = true ∧ next.joins = true) := by
  induction chain with
  | @closing after gap formed =>
      rcases closing_cases_of_formed formed with nothing | ⟨combinator, raw, same, _⟩
      · rw [nothing]
        exact .nil
      · rw [same]
        exact .singleton _
  | comment comment read more ih =>
      rwa [List.filter_cons_of_neg (by simp [comment])]
  | @token after gap token tokens formed named read more ih =>
      have plain := joins_eq_false read.combinator?_eq_none
      have behind : (token :: tokens.filter fun token => !token.isComment).IsChain
          fun token next => ¬(token.joins = true ∧ next.joins = true) :=
        List.isChain_cons.mpr ⟨by simp [plain], ih⟩
      rw [filter_not_isComment_token named]
      rcases gapTokens_cases after formed with nothing | ⟨combinator, raw, same, _⟩
      · rwa [nothing]
      · rw [same]
        exact List.isChain_cons_cons.mpr ⟨by simp [plain], behind⟩

theorem leading (chain : Chain after tokens) :
    ∀ token ∈ (tokens.filter fun token => !token.isComment).head?,
      token.combinator? = some .descendant → after = true := by
  induction chain with
  | @closing after gap formed =>
      rcases closing_cases_of_formed formed with nothing | ⟨combinator, raw, same, _, explicit⟩
      · simp [nothing]
      · simp [same, Token.ofCombinator, Token.combinator?, explicit]
  | comment comment read more ih =>
      rwa [List.filter_cons_of_neg (by simp [comment])]
  | @token after gap token tokens formed named read more ih =>
      rw [filter_not_isComment_token named]
      rcases gapTokens_cases after formed with nothing | ⟨combinator, raw, same, _, first⟩
      · simp [nothing, read.combinator?_eq_none]
      · simpa [same, Token.ofCombinator, Token.combinator?] using first

theorem trailing (chain : Chain after tokens) :
    ∀ token ∈ (tokens.filter fun token => !token.isComment).getLast?,
      token.combinator? ≠ some .descendant := by
  induction chain with
  | @closing after gap formed =>
      rcases closing_cases_of_formed formed with nothing | ⟨combinator, raw, same, _, explicit⟩
      · simp [nothing]
      · simp [same, Token.ofCombinator, Token.combinator?, Token.isComment, explicit]
  | comment comment read more ih =>
      rwa [List.filter_cons_of_neg (by simp [comment])]
  | @token after gap token tokens formed named read more ih =>
      have plain : token.combinator? ≠ some .descendant := by simp [read.combinator?_eq_none]
      rw [filter_not_isComment_token named,
        List.getLast?_append_of_ne_nil _ (List.cons_ne_nil token _)]
      exact forall_getLast?_cons plain ih

theorem followed (chain : Chain after tokens) :
    tokens.IsChain fun token next => token.joins = true → next.isComment = false := by
  induction chain with
  | @closing after gap formed =>
      rcases closing_cases_of_formed formed with nothing | ⟨combinator, raw, same, _⟩
      · rw [nothing]
        exact .nil
      · rw [same]
        exact .singleton _
  | comment comment read more ih =>
      have plain := joins_eq_false read.combinator?_eq_none
      exact List.isChain_cons.mpr ⟨by simp [plain], ih⟩
  | @token after gap token tokens formed named read more ih =>
      have plain := joins_eq_false read.combinator?_eq_none
      have behind : (token :: tokens).IsChain
          fun token next => token.joins = true → next.isComment = false :=
        List.isChain_cons.mpr ⟨by simp [plain], ih⟩
      rcases gapTokens_cases after formed with nothing | ⟨combinator, raw, same, _⟩
      · rwa [nothing]
      · rw [same]
        exact List.isChain_cons_cons.mpr ⟨fun _ => named, behind⟩

theorem written (chain : Chain after tokens) :
    ∀ token ∈ tokens, ∀ combinator ∈ token.combinator?,
      token.value = [combinator.mark] ∧ combinator.WrittenAs token.raw := by
  have ofCombinator {combinator : Combinator} {raw : Text} (written : combinator.WrittenAs raw) :
      ∀ other ∈ (Token.ofCombinator combinator raw).combinator?,
        (Token.ofCombinator combinator raw).value = [other.mark] ∧ other.WrittenAs raw := by
    intro other same
    cases same
    exact ⟨rfl, written⟩
  induction chain with
  | @closing after gap formed =>
      rcases closing_cases_of_formed formed with nothing | ⟨combinator, raw, same, written, _⟩
      · simp [nothing]
      · rw [same]
        exact List.forall_mem_singleton.mpr (ofCombinator written)
  | comment comment read more ih =>
      exact List.forall_mem_cons.mpr ⟨by simp [read.combinator?_eq_none], ih⟩
  | @token after gap token tokens formed named read more ih =>
      have behind : ∀ other ∈ token :: tokens, ∀ combinator ∈ other.combinator?,
          other.value = [combinator.mark] ∧ combinator.WrittenAs other.raw :=
        List.forall_mem_cons.mpr ⟨by simp [read.combinator?_eq_none], ih⟩
      rcases gapTokens_cases after formed with nothing | ⟨combinator, raw, same, written, _⟩
      · rwa [nothing]
      · rw [same]
        exact List.forall_mem_cons.mpr ⟨ofCombinator written, behind⟩

end Chain

/-- Every selector that was read is well shaped. -/
theorem wellShaped_of_parseList (raw : Text) (selectors : List Selector)
    (read : Selector.parseList raw = .ok selectors) :
    ∀ selector ∈ selectors, selector.WellShaped := by
  intro selector member
  obtain ⟨t, final, group, reads, join⟩ := (exists_group_of_mem read).2 selector member
  obtain ⟨joins, nonempty⟩ := ofPieces_eq_ok_iff_joins.mp join
  obtain ⟨chain, -⟩ := chain_of_joins joins reads formed_none
  refine ⟨nonempty, chain.apart, ?_, chain.trailing, chain.followed, chain.written⟩
  intro token first descendant
  cases chain.leading token first descendant

theorem wellShaped_of_parseList_commented :
    ∃ selector, Selector.parseList " > /*x*/.a /*y*/ b+/*z*/ " = .ok [selector] ∧
      selector.WellShaped := by
  have read : Selector.parseList " > /*x*/.a /*y*/ b+/*z*/ " =
      .ok [⟨[⟨.comment, "x", "/*x*/"⟩, ⟨.combinator .child, ">", " > "⟩,
        ⟨.className, "a", ".a"⟩, ⟨.comment, "y", "/*y*/"⟩,
        ⟨.combinator .descendant, " ", "  "⟩, ⟨.tag, "b", "b"⟩, ⟨.comment, "z", "/*z*/"⟩,
        ⟨.combinator .nextSibling, "+", "+ "⟩]⟩] := by decide +kernel
  exact ⟨_, read, wellShaped_of_parseList _ _ read _ List.mem_cons_self⟩

end ClassLint
