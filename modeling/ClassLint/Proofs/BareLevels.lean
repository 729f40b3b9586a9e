import ClassLint.Proofs.LevelComposition
import ClassLint.Proofs.SelectorShape

/-! Levels that hold nothing but comments. In a selector that was read, what follows a combinator is
neither a comment nor another combinator. So only a combinator that leads or trails leaves a level
bare. -/

namespace ClassLint

def Token.isSimple (token : Token) : Bool := !token.isComment && !token.joins

def Token.IsExplicit (token : Token) : Prop :=
  ∃ combinator, token.combinator? = some combinator ∧ combinator ≠ .descendant

/-- A level without tokens, comments apart. -/
def Level.Bare (level : Level) : Prop := ∀ token ∈ level.tokens, token.isComment = true

theorem isSimple_iff {token : Token} :
    token.isSimple = true ↔ token.isComment = false ∧ token.joins = false := by
  simp [Token.isSimple]

theorem isExplicit_of_joins {token : Token} (joins : token.joins = true)
    (mark : token.combinator? ≠ some .descendant) : token.IsExplicit := by
  obtain ⟨combinator, found⟩ := Option.isSome_iff_exists.mp joins
  refine ⟨combinator, found, ?_⟩
  rintro rfl
  exact mark found

theorem isComment_of_joins {token : Token} (joins : token.joins = true) :
    token.isComment = false := by
  cases kind : token.kind with
  | comment => simp [Token.joins, Token.combinator?, kind] at joins
  | _ => simp [Token.isComment, kind]

/-- Right behind each combinator stands a token that is neither a comment nor a combinator, if any
token does. -/
def FollowedBySimple (tokens : List Token) : Prop :=
  tokens.IsChain fun token next => token.joins = true → next.isSimple = true

theorem Chain.followedBySimple {after : Bool} {tokens : List Token} (chain : Chain after tokens) :
    FollowedBySimple tokens := by
  apply List.isChain_iff_forall_rel_of_append_cons_cons.mpr
  intro token next front back whole joins
  have visible : next.isComment = false :=
    List.isChain_iff_forall_rel_of_append_cons_cons.mp chain.followed whole joins
  have kept : tokens.filter (fun token => !token.isComment) =
      front.filter (fun token => !token.isComment) ++ token :: next ::
        back.filter fun token => !token.isComment := by
    simp [whole, isComment_of_joins joins, visible]
  have apart := List.isChain_iff_forall_rel_of_append_cons_cons.mp chain.apart kept
  exact isSimple_iff.mpr ⟨visible, by simpa [joins] using apart⟩

namespace FollowedBySimple

variable {front back : List Token} {token next : Token}

theorem next_isSimple (followed : FollowedBySimple (front ++ token :: next :: back))
    (joins : token.joins = true) : next.isSimple = true :=
  List.isChain_iff_forall_rel_of_append_cons_cons.mp followed rfl joins

theorem behind (followed : FollowedBySimple (front ++ token :: back)) : FollowedBySimple back :=
  (List.isChain_append.mp followed).2.1.tail

theorem eq_nil_of_comments {last : List Token}
    (followed : FollowedBySimple (front ++ token :: (back ++ last))) (joins : token.joins = true)
    (comments : ∀ token ∈ back, token.isComment = true) : back = [] := by
  cases back with
  | nil => rfl
  | cons next rest =>
      have simple := isSimple_iff.mp (next_isSimple (List.cons_append ▸ followed) joins)
      rw [comments next List.mem_cons_self] at simple
      cases simple.1

end FollowedBySimple

theorem lastCompound_cases (tokens : List Token) :
    (lastCompound tokens).tokens = tokens ∨
      ∃ front token, token.joins = true ∧
        tokens = front ++ token :: (lastCompound tokens).tokens := by
  induction tokens with
  | nil => exact .inl rfl
  | cons first rest ih =>
      rcases ih with whole | ⟨front, token, joins, same⟩
      · cases joins : first.joins with
        | true =>
            have behind := lastCompound_append_joins joins [] rest
            rw [List.nil_append] at behind
            exact .inr ⟨[], first, joins, by rw [behind, whole]; rfl⟩
        | false =>
            have none : ∀ token ∈ first :: rest, token.joins = false :=
              List.forall_mem_cons.mpr ⟨joins, whole ▸ joins_of_mem_lastCompound⟩
            rw [lastCompound_eq, Segment.parts_of_none none]
            exact .inl rfl
      · have behind : lastCompound (first :: rest) = lastCompound rest := by
          rw [same, ← List.cons_append, lastCompound_append_joins joins,
            lastCompound_append_joins joins]
        rw [behind]
        exact .inr ⟨first :: front, token, joins, by rw [List.cons_append, ← same]⟩

theorem comments_or_trailing {tokens last : List Token}
    (followed : FollowedBySimple (tokens ++ last)) (bare : (lastCompound tokens).Bare) :
    (∀ token ∈ tokens, token.isComment = true) ∨ ∃ token ∈ tokens.getLast?, token.joins = true := by
  rcases lastCompound_cases tokens with whole | ⟨front, token, joins, whole⟩
  · rw [Level.Bare, whole] at bare
    exact .inl bare
  · right
    rw [whole, List.append_assoc, List.cons_append] at followed
    rw [followed.eq_nil_of_comments joins bare] at whole
    exact ⟨token, by simp [whole], joins⟩

/-- A bare level is the first, with a combinator right behind it unless all is comments, or it is
the last, behind a combinator that trails. -/
theorem ends_of_bare {tokens : List Token} (followed : FollowedBySimple tokens) {index : Nat}
    {level : Level} (found : (levelsIn tokens)[index]? = some level) (bare : level.Bare) :
    (index = 0 ∧ ∀ token ∈ (tokens.filter fun token => !token.isComment).head?,
        token.joins = true) ∨
      index + 1 = (levelsIn tokens).length ∧ ∃ token ∈ tokens.getLast?, token.joins = true := by
  induction tokens using level_induction generalizing index with
  | one tokens none =>
      rw [levelsIn_of_none none, List.getElem?_singleton] at found
      obtain ⟨rfl, same⟩ := Option.ite_none_right_eq_some.mp found
      cases same
      rcases comments_or_trailing (by rwa [List.append_nil]) bare with comments | trailing
      · have nothing : tokens.filter (fun token => !token.isComment) = [] := by simpa using comments
        exact .inl ⟨rfl, by simp [nothing]⟩
      · exact .inr ⟨by rw [levelsIn_of_none none]; rfl, trailing⟩
  | more front token back none descends ih =>
      have joins := joins_of_descends descends
      rw [levelsIn_append_descends descends, levelsIn_of_none none] at found ⊢
      cases index with
      | zero =>
          cases found
          rcases comments_or_trailing followed bare with comments | ⟨last, trails, divides⟩
          · have nothing : front.filter (fun token => !token.isComment) = [] := by
              simpa using comments
            exact .inl ⟨rfl, by simp [nothing, isComment_of_joins joins, joins]⟩
          · obtain ⟨before, rfl⟩ := List.getLast?_eq_some_iff.mp trails
            rw [List.append_assoc, List.singleton_append] at followed
            have simple := isSimple_iff.mp (followed.next_isSimple divides)
            exact absurd joins (by simp [simple.2])
      | succ index =>
          have inside : (levelsIn back)[index]? = some level := found
          rcases ih followed.behind inside with ⟨rfl, leading⟩ | ⟨last, trailing⟩
          · -- a token right behind the combinator would be simple
            cases back with
            | nil => exact .inr ⟨rfl, token, by simp, joins⟩
            | cons next rest =>
                have simple := isSimple_iff.mp (followed.next_isSimple joins)
                exact absurd (leading next (by simp [simple.1])) (by simp [simple.2])
          · obtain ⟨final, ends, divides⟩ := trailing
            refine .inr ⟨by simpa using last, final, ?_, divides⟩
            rw [List.getLast?_append, List.getLast?_cons, ends]
            rfl

theorem Chain.isExplicit_of_leading {tokens : List Token} (chain : Chain false tokens)
    {token : Token} (first : token ∈ (tokens.filter fun token => !token.isComment).head?)
    (joins : token.joins = true) : token.IsExplicit := by
  apply isExplicit_of_joins joins
  intro descendant
  cases chain.leading token first descendant

theorem Chain.isExplicit_of_trailing {after : Bool} {tokens : List Token}
    (chain : Chain after tokens) {token : Token} (last : token ∈ tokens.getLast?)
    (joins : token.joins = true) : token.IsExplicit := by
  obtain ⟨front, rfl⟩ := List.getLast?_eq_some_iff.mp last
  apply isExplicit_of_joins joins
  exact chain.trailing token (by simp [isComment_of_joins joins])

/-- In a selector that was read, a level without tokens but comments is the first, and a combinator
with a mark leads or there are only comments and combinators, or it is the last, and a combinator
with a mark trails or there are only comments and combinators. All levels between hold a token that
is neither. -/
theorem bare_levels_at_ends (raw : Text) (selectors : List Selector)
    (read : Selector.parseList raw = .ok selectors) :
    ∀ selector ∈ selectors,
      (∀ index level, selector.levels[index]? = some level → level.Bare →
        (index = 0 ∧ ((∃ token ∈ selector.withoutComments.tokens.head?, token.IsExplicit) ∨
          ∀ token ∈ selector.tokens, token.isSimple = false)) ∨
        (index + 1 = selector.levels.length ∧
          ((∃ token ∈ selector.tokens.getLast?, token.IsExplicit) ∨
            ∀ token ∈ selector.tokens, token.isSimple = false))) ∧
      ∀ index level, 0 < index → index + 1 < selector.levels.length →
        selector.levels[index]? = some level → ∃ token ∈ level.tokens, token.isSimple = true := by
  intro selector member
  obtain ⟨t, final, group, reads, join⟩ := (exists_group_of_mem read).2 selector member
  obtain ⟨joins, nonempty⟩ := ofPieces_eq_ok_iff_joins.mp join
  obtain ⟨chain, -⟩ := chain_of_joins joins reads formed_none
  have ends {index : Nat} {level : Level} (found : selector.levels[index]? = some level)
      (bare : level.Bare) :=
    ends_of_bare chain.followedBySimple (levels_eq_levelsIn nonempty ▸ found) bare
  rw [← levels_eq_levelsIn nonempty] at ends
  refine ⟨?_, ?_⟩
  · intro index level found bare
    rcases ends found bare with ⟨first, leading⟩ | ⟨last, token, trailing, divides⟩
    · refine .inl ⟨first, ?_⟩
      cases visible : selector.withoutComments.tokens.head? with
      | none =>
          right
          have comments : ∀ token ∈ selector.tokens, token.isComment = true := by
            simpa [Selector.withoutComments] using List.head?_eq_none_iff.mp visible
          intro token inside
          simp [Token.isSimple, comments token inside]
      | some token =>
          exact .inl ⟨token, rfl, chain.isExplicit_of_leading visible (leading token visible)⟩
    · exact .inr ⟨last, .inl ⟨token, trailing, chain.isExplicit_of_trailing trailing divides⟩⟩
  · intro index level first last found
    by_contra nothing
    have bare : level.Bare := by
      intro token inside
      have plain := plain_of_mem_levels (List.mem_of_getElem? found) token inside
      cases comment : token.isComment with
      | true => rfl
      | false => exact absurd ⟨token, inside, isSimple_iff.mpr ⟨comment, plain⟩⟩ nothing
    rcases ends found bare with ⟨same, _⟩ | ⟨same, _⟩ <;> omega

/-- Both ends are bare, and the level between the sibling combinator and the next is not. -/
theorem bare_levels_at_ends_commented :
    ∃ selector, Selector.parseList " /*x*/ > .a + /*y*/ b >" = .ok [selector] ∧
      selector.levels = [⟨[⟨.comment, "x", "/*x*/"⟩]⟩, ⟨[⟨.tag, "b", "b"⟩]⟩, ⟨[]⟩] ∧
      ((∃ token ∈ selector.withoutComments.tokens.head?, token.IsExplicit) ∨
        ∀ token ∈ selector.tokens, token.isSimple = false) ∧
      ((∃ token ∈ selector.tokens.getLast?, token.IsExplicit) ∨
        ∀ token ∈ selector.tokens, token.isSimple = false) ∧
      ∃ token ∈ ([⟨.tag, "b", "b"⟩] : List Token), token.isSimple = true := by
  have read : Selector.parseList " /*x*/ > .a + /*y*/ b >" =
      .ok [⟨[⟨.comment, "x", "/*x*/"⟩, ⟨.combinator .child, ">", "  > "⟩,
        ⟨.className, "a", ".a"⟩, ⟨.comment, "y", "/*y*/"⟩,
        ⟨.combinator .nextSibling, "+", " +  "⟩, ⟨.tag, "b", "b"⟩,
        ⟨.combinator .child, ">", " >"⟩]⟩] := by decide +kernel
  obtain ⟨bare, between⟩ := bare_levels_at_ends _ _ read _ List.mem_cons_self
  refine ⟨_, read, by decide +kernel, ?_, ?_, between 1 _ (by decide) (by decide) rfl⟩
  · rcases bare 0 ⟨[⟨.comment, "x", "/*x*/"⟩]⟩ rfl (by simp [Level.Bare, Token.isComment]) with
      ⟨_, leading⟩ | ⟨last, _⟩
    · exact leading
    · exact absurd last (by decide)
  · rcases bare 2 ⟨[]⟩ rfl (by simp [Level.Bare]) with ⟨first, _⟩ | ⟨_, trailing⟩
    · cases first
    · exact trailing

end ClassLint
