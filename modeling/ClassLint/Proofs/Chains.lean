import ClassLint.Proofs.Rereading

/-! The tokens of a selector as a chain: comments, and tokens each with the gap before it, up to a
gap at the end. Written one after the other the tokens of a chain read as the same chain. -/

namespace ClassLint

/-- Tokens that could have been read in this order. The flag tells whether a token that is no
comment stands before them. -/
inductive Chain : Bool → List Token → Prop where
  | closing {after : Bool} {gap : Option Gap} (formed : Gap.Formed gap) :
      Chain after (Gap.closing gap)
  | comment {after : Bool} {token : Token} {tokens : List Token} (comment : token.isComment = true)
      (read : token.ReadBefore (Token.source tokens)) (more : Chain after tokens) :
      Chain after (token :: tokens)
  | token {after : Bool} {gap : Option Gap} {token : Token} {tokens : List Token}
      (formed : Gap.Formed gap) (named : token.isComment = false)
      (read : token.ReadBefore (Token.source tokens)) (more : Chain true tokens) :
      Chain after (Gap.tokens after gap ++ token :: tokens)

theorem source_cons (token : Token) (tokens : List Token) :
    Token.source (token :: tokens) = token.raw ++ Token.source tokens := rfl

theorem source_append (first second : List Token) :
    Token.source (first ++ second) = Token.source first ++ Token.source second := by
  simp [Token.source]

theorem forall_getLast?_cons {α : Type} {p : α → Prop} {first : α} {rest : List α}
    (holds : p first) (others : ∀ item ∈ rest.getLast?, p item) :
    ∀ item ∈ (first :: rest).getLast?, p item := by
  intro item last
  rw [List.getLast?_cons] at last
  cases found : rest.getLast? with
  | none =>
      rw [found] at last
      cases last
      exact holds
  | some other =>
      rw [found] at last
      cases last
      exact others _ found

theorem gapTokens_eq_nil_or (after : Bool) (gap : Option Gap) :
    Gap.tokens after gap = [] ∨
      ∃ present, gap = some present ∧ Token.source (Gap.tokens after gap) = present.raw := by
  obtain _ | ⟨_ | combinator, raw⟩ := gap
  · exact .inl rfl
  · cases after with
    | false => exact .inl rfl
    | true => exact .inr ⟨_, rfl, List.append_nil raw⟩
  · exact .inr ⟨_, rfl, List.append_nil raw⟩

theorem source_gapTokens_true (gap : Gap) :
    Token.source (Gap.tokens true (some gap)) = gap.raw := by
  obtain ⟨_ | combinator, raw⟩ := gap <;> exact List.append_nil raw

/-! ### Every selector is a chain -/

theorem raw_ne_of_wellFormed {gap : Gap} (formed : gap.WellFormed) :
    gap.raw ≠ [] ∧ gap.raw ≠ ['#'] := by
  obtain ⟨_ | combinator, raw⟩ := gap
  · obtain ⟨nonempty, blank⟩ := formed
    refine ⟨nonempty, ?_⟩
    rintro rfl
    exact absurd (blank '#' (by simp)) (by decide)
  · obtain ⟨explicit, before, behind, leading, -, rfl⟩ := formed
    refine ⟨by simp, ?_⟩
    intro hash
    have mark : combinator.mark ∈ ['#'] := hash ▸ List.mem_append_right before List.mem_cons_self
    cases combinator <;> simp [Combinator.mark] at mark

/-- What pieces join to is a chain, and after a token it goes on no longer than the text that it was
read from. -/
theorem chain_of_joins {t final : Text} {after : Bool} {gap : Option Gap} {pieces : List Piece}
    {tokens : List Token} (joins : Joins after gap pieces tokens) (read : ReadsTo t pieces final)
    (formed : Gap.Formed gap) :
    Chain after tokens ∧
      (after = true → NotLonger (Token.source tokens) (Gap.source gap ++ t)) := by
  induction joins generalizing t with
  | closing after gap =>
      refine ⟨.closing formed, ?_⟩
      intro _
      rcases closing_eq_nil_or gap with dropped | ⟨combinator, raw, rfl⟩
      · rw [dropped]
        exact notLonger_nil _
      · obtain ⟨nonempty, hash⟩ := raw_ne_of_wellFormed (formed_some.mp formed)
        exact notLonger_append nonempty hash [] t
  | @space after gap blanks pieces tokens joined ih =>
      cases read with
      | @piece c rest left _ _ _ inside found more =>
          obtain ⟨blank, nonempty⟩ :=
            (ReadsTo.piece inside found (.done left)).sound _ List.mem_cons_self
          have source : blanks ++ left = c :: rest := readPiece_append found
          have next := ih more (formed_addBlanks nonempty blank formed)
          rwa [source_addBlanks, List.append_assoc, source] at next
  | @combinator after gap next combinator pieces tokens added joined ih =>
      cases read with
      | @piece c rest left _ _ _ inside found more =>
          have explicit : combinator ≠ .descendant := wellFormed_of_readPiece found
          have source : [combinator.mark] ++ left = c :: rest := readPiece_append found
          have next := ih more (formed_addCombinator explicit formed added)
          rwa [source_addCombinator added, List.append_assoc, source] at next
  | @comment after gap token pieces tokens comment joined ih =>
      cases read with
      | @piece c rest left _ _ _ inside found more =>
          obtain ⟨chain, -⟩ := ih more formed
          have before := readBefore_of_readPiece inside found
          refine ⟨.comment comment (.comment_exchange comment before _) chain, ?_⟩
          intro _
          obtain ⟨s, slash⟩ := before.head?_comment comment
          rw [source_cons, slash]
          -- A comment starts with a slash, which makes no token longer.
          exact notLonger_slash _ _
  | @token after gap token pieces tokens named joined ih =>
      cases read with
      | @piece c rest left _ _ _ inside found more =>
          obtain ⟨chain, notLonger⟩ := ih more formed_none
          have before := readBefore_of_readPiece inside found
          have read := before.exchange (notLonger rfl)
          have source : token.raw ++ left = c :: rest := readPiece_append found
          refine ⟨.token formed named read chain, ?_⟩
          intro passed
          subst passed
          obtain _ | present := gap
          · rw [← source]
            exact notLonger_append before.raw_ne_nil before.raw_ne_hash _ _
          · obtain ⟨nonempty, hash⟩ := raw_ne_of_wellFormed (formed_some.mp formed)
            rw [source_append, source_gapTokens_true]
            exact notLonger_append nonempty hash _ _

/-! ### Every chain is read again -/

theorem isBlank_mark {combinator : Combinator} (explicit : combinator ≠ .descendant) :
    isBlank combinator.mark = false := by
  cases combinator with
  | descendant => exact absurd rfl explicit
  | child | nextSibling | subsequentSibling => rfl

def spacePieces (blanks : Text) : List Piece := if blanks = [] then [] else [.space blanks]

theorem reads_spacePieces {blanks rest : Text} (blank : AllBlank blanks)
    (ends : ∀ c ∈ rest.head?, isBlank c = false) :
    ReadsTo (blanks ++ rest) (spacePieces blanks) rest := by
  unfold spacePieces
  split
  · rename_i empty
    rw [empty]
    exact .done rest
  · rename_i nonempty
    exact reads_blanks nonempty blank ends

theorem exists_reads_gap {gap : Gap} (formed : gap.WellFormed) {rest : Text}
    (ends : ∀ c ∈ rest.head?, isBlank c = false) :
    ∃ pieces, ReadsTo (gap.raw ++ rest) pieces rest ∧
      ∀ after others, joinPieces after none (pieces ++ others) =
        joinPieces after (some gap) others := by
  obtain ⟨_ | combinator, raw⟩ := gap
  · obtain ⟨nonempty, blank⟩ := formed
    exact ⟨[.space raw], reads_blanks nonempty blank ends, fun _ _ => rfl⟩
  · obtain ⟨explicit, before, behind, leading, trailing, rfl⟩ := formed
    refine ⟨spacePieces before ++ .combinator combinator :: spacePieces behind, ?_, ?_⟩
    · have visible := isBlank_mark explicit
      have first : ReadsTo (before ++ combinator.mark :: (behind ++ rest)) (spacePieces before)
          (combinator.mark :: (behind ++ rest)) :=
        reads_spacePieces leading (by simpa using visible)
      have second := (reads_combinator explicit (behind ++ rest)).append
        (reads_spacePieces trailing ends)
      simpa using first.append second
    · intro after others
      by_cases first : before = [] <;> by_cases second : behind = [] <;>
        simp [spacePieces, first, second, joinPieces, Gap.addBlanks, Gap.addCombinator]

theorem Chain.exists_rereads {after : Bool} {tokens : List Token} (chain : Chain after tokens)
    {v : Text} (comma : ∀ c ∈ v.head?, c = ',') :
    ∃ pieces, ReadsTo (Token.source tokens ++ v) pieces v ∧ Joins after none pieces tokens := by
  induction chain with
  | @closing after gap formed =>
      have ends : ∀ c ∈ v.head?, isBlank c = false := by
        intro c first
        rw [comma c first]
        decide
      rcases closing_eq_nil_or gap with dropped | ⟨combinator, raw, rfl⟩
      · rw [dropped]
        exact ⟨[], .done v, .closing after none⟩
      · obtain ⟨pieces, reads, same⟩ := exists_reads_gap (formed_some.mp formed) ends
        refine ⟨pieces, by simpa [Gap.closing, Token.source, Token.ofCombinator] using reads, ?_⟩
        apply joins_of_joinPieces
        rw [← List.append_nil pieces, same]
        rfl
  | @comment after token tokens comment read more ih =>
      obtain ⟨pieces, reads, joins⟩ := ih
      have first := Token.ReadBefore.comment_exchange comment read (Token.source tokens ++ v)
      refine ⟨.token token :: pieces, ?_, .comment comment joins⟩
      rw [source_cons, List.append_assoc]
      exact first.append reads
  | @token after gap token tokens formed named read more ih =>
      obtain ⟨pieces, reads, joins⟩ := ih
      have stop : ∀ c ∈ v.head?, c = ',' ∨ c = ' ' := fun c found => .inl (comma c found)
      have first := read.exchange (notLonger_append_stop stop (Token.source tokens))
      have rest : ReadsTo (token.raw ++ (Token.source tokens ++ v)) (.token token :: pieces) v :=
        first.append reads
      rw [source_append, source_cons, List.append_assoc, List.append_assoc]
      rcases gapTokens_eq_nil_or after gap with dropped | ⟨present, rfl, kept⟩
      · rw [dropped]
        exact ⟨.token token :: pieces, rest, .token named joins⟩
      · obtain ⟨gapPieces, readsGap, same⟩ :=
          exists_reads_gap (formed_some.mp formed) (read.first_visible (Token.source tokens ++ v))
        refine ⟨gapPieces ++ .token token :: pieces, kept ▸ readsGap.append rest, ?_⟩
        apply joins_of_joinPieces
        rw [same]
        exact joinPieces_of_joins (.token named joins)

end ClassLint
