import ClassLint.Proofs.Chains

/-! Reading again what is shown of a list of selectors. Kinds and values always come back. What is
shown comes back too, except that a selector behind a comma may lead with comments and then a
combinator: the blank that is shown after the comma ends up between those two. -/

namespace ClassLint

/-! ### Chains without the blanks around them -/

theorem Token.ReadBefore.cut {token : Token} {u v : Text} (read : token.ReadBefore (u ++ v)) :
    token.ReadBefore u := by
  apply ReadsTo.cut (v := v) read
  rw [List.append_assoc]

theorem Chain.exists_closing {after : Bool} {tokens : List Token} (chain : Chain after tokens) :
    ∃ init gap, Gap.Formed gap ∧ tokens = init ++ Gap.closing gap ∧
      (∀ token ∈ init.getLast?, token.raw ≠ [] ∧ token.combinator? = none) ∧
      ∀ other blanks, Gap.Formed other →
        Token.source (Gap.closing gap) = Token.source (Gap.closing other) ++ blanks →
        Chain after (init ++ Gap.closing other) := by
  induction chain with
  | @closing after gap formed =>
      refine ⟨[], gap, formed, rfl, by simp, ?_⟩
      intro other blanks formedOther _
      exact .closing formedOther
  | @comment after token tokens comment read more ih =>
      obtain ⟨init, gap, formed, rfl, last, closes⟩ := ih
      refine ⟨token :: init, gap, formed, rfl, ?_, ?_⟩
      · exact forall_getLast?_cons ⟨read.raw_ne_nil, read.combinator?_eq_none⟩ last
      · intro other blanks formedOther same
        exact .comment comment (.comment_exchange comment read _)
          (closes other blanks formedOther same)
  | @token after earlier token tokens formedEarlier named read more ih =>
      obtain ⟨init, gap, formed, rfl, last, closes⟩ := ih
      refine ⟨Gap.tokens after earlier ++ token :: init, gap, formed, by simp, ?_, ?_⟩
      · rw [List.getLast?_append_of_ne_nil _ (List.cons_ne_nil token init)]
        exact forall_getLast?_cons ⟨read.raw_ne_nil, read.combinator?_eq_none⟩ last
      · intro other blanks formedOther same
        have cut : token.ReadBefore (Token.source (init ++ Gap.closing other)) := by
          apply Token.ReadBefore.cut (v := blanks)
          rwa [source_append, List.append_assoc, ← same, ← source_append]
        rw [List.append_assoc, List.cons_append]
        exact .token formedEarlier named cut (closes other blanks formedOther same)

theorem Chain.exists_opening {tokens : List Token} (chain : Chain false tokens) :
    (∀ c ∈ (Token.source tokens).head?, isBlank c = false) ∨
      ∃ combinator raw rest, tokens = .ofCombinator combinator raw :: rest ∧
        Gap.Formed (some ⟨some combinator, raw⟩) ∧
        ∀ other, Gap.Formed (some ⟨some combinator, other⟩) →
          Chain false (.ofCombinator combinator other :: rest) := by
  cases chain with
  | @closing _ gap formed =>
      rcases closing_eq_nil_or gap with dropped | ⟨combinator, raw, rfl⟩
      · exact .inl (by simp [dropped, Token.source])
      · exact .inr ⟨combinator, raw, [], rfl, formed, fun _ formedOther => .closing formedOther⟩
  | @comment _ token tokens comment read more => exact .inl (read.first_visible _)
  | @token _ gap token tokens formed named read more =>
      rcases closing_eq_nil_or gap with dropped | ⟨combinator, raw, rfl⟩
      · rw [gapTokens_false, dropped]
        exact .inl (read.first_visible _)
      · refine .inr ⟨combinator, raw, token :: tokens, rfl, formed, ?_⟩
        intro other formedOther
        exact .token formedOther named read more

theorem last_visible_of_endsVisibly {tokens : List Token}
    (last : ∀ token ∈ tokens.getLast?, token.raw ≠ [] ∧ token.combinator? = none)
    (visible : Selector.EndsVisibly ⟨tokens⟩) :
    ∀ c ∈ (Token.source tokens).getLast?, isBlank c = false := by
  obtain rfl | ⟨front, token, rfl⟩ := tokens.eq_nil_or_concat'
  · simp [Token.source]
  · have final : (front ++ [token]).getLast? = some token := List.getLast?_concat
    obtain ⟨nonempty, unjoined⟩ := last token final
    have source : Token.source (front ++ [token]) = Token.source front ++ token.raw := by
      simp [Token.source]
    rw [source, List.getLast?_append_of_ne_nil _ nonempty]
    exact visible token final unjoined

theorem Chain.exists_trimEnd {tokens : List Token} (chain : Chain false tokens)
    (visible : Selector.EndsVisibly ⟨tokens⟩) :
    ∃ shown blanks, AllBlank blanks ∧ Chain false shown ∧
      shown.map Token.meaning = tokens.map Token.meaning ∧
      Token.source tokens = Token.source shown ++ blanks ∧
      ∀ c ∈ (Token.source shown).getLast?, isBlank c = false := by
  obtain ⟨init, gap, formed, whole, last, closes⟩ := chain.exists_closing
  rcases closing_eq_nil_or gap with dropped | ⟨combinator, raw, rfl⟩
  · obtain rfl : tokens = init := by rw [whole, dropped, List.append_nil]
    exact ⟨tokens, [], allBlank_nil, chain, rfl, (List.append_nil _).symm,
      last_visible_of_endsVisibly last visible⟩
  · obtain ⟨explicit, before, behind, leading, trailing, spelled⟩ := formed_some.mp formed
    obtain rfl : raw = before ++ combinator.mark :: behind := spelled
    let shorter : Option Gap := some ⟨some combinator, before ++ [combinator.mark]⟩
    have formedShorter : Gap.Formed shorter :=
      formed_some.mpr ⟨explicit, before, [], leading, allBlank_nil, rfl⟩
    have source : Token.source (Gap.closing (some ⟨some combinator, before ++
        combinator.mark :: behind⟩)) = Token.source (Gap.closing shorter) ++ behind := by
      simp [Gap.closing, shorter, Token.source, Token.ofCombinator]
    refine ⟨init ++ Gap.closing shorter, behind, trailing,
      closes shorter behind formedShorter source, ?_, ?_, ?_⟩
    · rw [whole, List.map_append, List.map_append]
      rfl
    · rw [whole, source_append, source_append, source, List.append_assoc]
    · have ending : Token.source (init ++ Gap.closing shorter) =
          Token.source init ++ before ++ [combinator.mark] := by
        simp [Gap.closing, shorter, Token.source, Token.ofCombinator]
      rw [ending, List.getLast?_concat]
      rintro _ ⟨⟩
      exact isBlank_mark explicit

theorem Chain.exists_trimStart {tokens : List Token} (chain : Chain false tokens) :
    ∃ shown blanks, AllBlank blanks ∧ Chain false shown ∧
      shown.map Token.meaning = tokens.map Token.meaning ∧
      Token.source tokens = blanks ++ Token.source shown ∧
      ∀ c ∈ (Token.source shown).head?, isBlank c = false := by
  rcases chain.exists_opening with visible | ⟨combinator, raw, rest, rfl, formed, opens⟩
  · exact ⟨tokens, [], allBlank_nil, chain, rfl, rfl, visible⟩
  · obtain ⟨explicit, before, behind, leading, trailing, spelled⟩ := formed_some.mp formed
    obtain rfl : raw = before ++ combinator.mark :: behind := spelled
    have formedRest : Gap.Formed (some ⟨some combinator, combinator.mark :: behind⟩) :=
      formed_some.mpr ⟨explicit, [], behind, allBlank_nil, trailing, rfl⟩
    refine ⟨_, before, leading, opens _ formedRest, rfl, ?_, ?_⟩
    · simp [Token.source, Token.ofCombinator]
    · rintro _ ⟨⟩
      exact isBlank_mark explicit

theorem Chain.exists_trim {tokens : List Token} (chain : Chain false tokens)
    (visible : Selector.EndsVisibly ⟨tokens⟩) :
    ∃ shown, Chain false shown ∧ shown.map Token.meaning = tokens.map Token.meaning ∧
      Token.source shown = trim (Token.source tokens) := by
  obtain ⟨middle, behind, trailing, chain, meaning, whole, last⟩ := chain.exists_trimEnd visible
  obtain ⟨shown, before, leading, chain, same, rest, first⟩ := chain.exists_trimStart
  refine ⟨shown, chain, same.trans meaning, ?_⟩
  have trimmed : Trimmed (Token.source shown) := by
    refine ⟨first, ?_⟩
    intro c ending
    apply last c
    rw [rest, List.getLast?_append, ending]
    rfl
  rw [whole, rest, List.append_assoc, trim_of_blanks leading trailing trimmed]

/-! ### A blank in front -/

/-- Blanks put before the combinator that a selector leads with, behind the comments before it. -/
def padLead (blanks : Text) : List Token → List Token
  | [] => []
  | token :: rest =>
    match token.kind with
    | .comment => token :: padLead blanks rest
    | .combinator _ => { token with raw := blanks ++ token.raw } :: rest
    | _ => token :: rest

def leadsWithCombinator : List Kind → Bool
  | .comment :: kinds => leadsWithCombinator kinds
  | .combinator _ :: _ => true
  | _ => false

/-- The selector leads with a combinator and comments stand before that. -/
def Selector.leadsAfterComment (selector : Selector) : Bool :=
  match selector.tokens.map Token.kind with
  | .comment :: kinds => leadsWithCombinator kinds
  | _ => false

def Gap.pad (blanks : Text) (gap : Option Gap) : Gap :=
  ⟨Gap.found? gap, blanks ++ Gap.source gap⟩

theorem addBlanks_pad (more blanks : Text) (gap : Option Gap) :
    Gap.addBlanks more (some (Gap.pad blanks gap)) =
      Gap.pad blanks (some (Gap.addBlanks more gap)) := by
  cases gap <;> simp [Gap.pad, Gap.addBlanks, Gap.source, Gap.found?]

theorem addCombinator_pad {combinator : Combinator} {gap : Option Gap} {next : Gap}
    (blanks : Text) (added : Gap.addCombinator combinator gap = .ok next) :
    Gap.addCombinator combinator (some (Gap.pad blanks gap)) =
      .ok (Gap.pad blanks (some next)) := by
  obtain _ | ⟨_ | earlier, raw⟩ := gap <;> cases added <;>
    simp [Gap.pad, Gap.addCombinator, Gap.source, Gap.found?]

theorem padLead_closing (blanks : Text) (gap : Option Gap) :
    padLead blanks (Gap.closing gap) = Gap.closing (some (Gap.pad blanks gap)) := by
  obtain _ | ⟨_ | combinator, raw⟩ := gap <;> rfl

theorem padLead_of_plain {token : Token} (blanks : Text) (rest : List Token)
    (named : token.isComment = false) (plain : token.combinator? = none) :
    padLead blanks (token :: rest) = token :: rest := by
  rw [padLead]
  cases kind : token.kind with
  | comment => simp [Token.isComment, kind] at named
  | combinator combinator => simp [Token.combinator?, kind] at plain
  | _ => rfl

theorem padLead_gapTokens (blanks : Text) (gap : Option Gap) {token : Token} (rest : List Token)
    (named : token.isComment = false) (plain : token.combinator? = none) :
    padLead blanks (Gap.tokens false gap ++ token :: rest) =
      Gap.tokens false (some (Gap.pad blanks gap)) ++ token :: rest := by
  obtain _ | ⟨_ | combinator, raw⟩ := gap
  · exact padLead_of_plain blanks rest named plain
  · exact padLead_of_plain blanks rest named plain
  · rfl

/-- Blanks before a selector stand before the combinator it leads with, and otherwise nowhere. -/
theorem joins_pad {after : Bool} {gap : Option Gap} {pieces : List Piece} {tokens : List Token}
    (joins : Joins after gap pieces tokens) (start : after = false)
    (wellFormed : ∀ piece ∈ pieces, piece.WellFormed) (blanks : Text) :
    Joins after (some (Gap.pad blanks gap)) pieces (padLead blanks tokens) := by
  induction joins with
  | closing after gap =>
      rw [padLead_closing]
      exact .closing after _
  | space joined ih =>
      obtain ⟨-, others⟩ := List.forall_mem_cons.mp wellFormed
      apply Joins.space
      rw [addBlanks_pad]
      exact ih start others
  | combinator added joined ih =>
      obtain ⟨-, others⟩ := List.forall_mem_cons.mp wellFormed
      exact .combinator (addCombinator_pad blanks added) (ih start others)
  | @comment after gap token pieces tokens comment joined ih =>
      obtain ⟨-, others⟩ := List.forall_mem_cons.mp wellFormed
      have kind : token.kind = .comment := eq_of_beq comment
      rw [padLead, kind]
      exact .comment comment (ih start others)
  | @token after gap token pieces tokens named joined ih =>
      obtain ⟨first, -⟩ := List.forall_mem_cons.mp wellFormed
      subst start
      rw [padLead_gapTokens blanks gap tokens named first.2.1]
      exact .token named joined

theorem meaning_padLead (blanks : Text) (tokens : List Token) :
    (padLead blanks tokens).map Token.meaning = tokens.map Token.meaning := by
  induction tokens with
  | nil => rfl
  | cons token rest ih =>
      rw [padLead]
      split
      · rw [List.map_cons, ih, List.map_cons]
      · rfl
      · rfl

theorem leadsWithCombinator_of_plain {token : Token} (kinds : List Kind)
    (named : token.isComment = false) (plain : token.combinator? = none) :
    leadsWithCombinator (token.kind :: kinds) = false := by
  cases kind : token.kind with
  | comment => simp [Token.isComment, kind] at named
  | combinator combinator => simp [Token.combinator?, kind] at plain
  | _ => rfl

theorem padLead_of_not_leads {tokens : List Token} (blanks : Text)
    (leads : leadsWithCombinator (tokens.map Token.kind) = false) :
    padLead blanks tokens = tokens := by
  induction tokens with
  | nil => rfl
  | cons token rest ih =>
      rw [padLead]
      split
      · rename_i kind
        rw [List.map_cons, kind] at leads
        rw [ih leads]
      · rename_i combinator kind
        rw [List.map_cons, kind] at leads
        cases leads
      · rfl

theorem Chain.exists_source_padLead {after : Bool} {tokens : List Token}
    (chain : Chain after tokens) (start : after = false)
    (leads : leadsWithCombinator (tokens.map Token.kind) = true) (blanks : Text) :
    ∃ front back, back ≠ [] ∧ Token.source tokens = front ++ back ∧
      Token.source (padLead blanks tokens) = front ++ (blanks ++ back) ∧
      (front = [] ↔ Selector.leadsAfterComment ⟨tokens⟩ = false) := by
  induction chain with
  | @closing after gap formed =>
      rcases closing_eq_nil_or gap with dropped | ⟨combinator, raw, rfl⟩
      · rw [dropped] at leads
        cases leads
      · obtain ⟨nonempty, -⟩ := raw_ne_of_wellFormed (formed_some.mp formed)
        refine ⟨[], raw, nonempty, List.append_nil raw, ?_, iff_of_true rfl rfl⟩
        exact List.append_nil _
  | @comment after token tokens comment read more ih =>
      have kind : token.kind = .comment := eq_of_beq comment
      have later : leadsWithCombinator (tokens.map Token.kind) = true := by
        rwa [List.map_cons, kind] at leads
      obtain ⟨front, back, nonempty, whole, padded, -⟩ := ih start later
      refine ⟨token.raw ++ front, back, nonempty, ?_, ?_, ?_⟩
      · rw [source_cons, whole, List.append_assoc]
      · rw [padLead, kind, source_cons, padded, List.append_assoc]
      · simp [read.raw_ne_nil, Selector.leadsAfterComment, kind, later]
  | @token after gap token tokens formed named read more ih =>
      subst start
      have plain := leadsWithCombinator_of_plain (tokens.map Token.kind) named
        read.combinator?_eq_none
      rcases closing_eq_nil_or gap with dropped | ⟨combinator, raw, rfl⟩
      · rw [gapTokens_false, dropped] at leads
        cases plain.symm.trans leads
      · obtain ⟨nonempty, -⟩ := raw_ne_of_wellFormed (formed_some.mp formed)
        refine ⟨[], raw ++ Token.source (token :: tokens), by simp [nonempty], rfl, ?_, ?_⟩
        · exact List.append_assoc _ _ _
        · exact iff_of_true rfl rfl

/-! ### Selectors in a list -/

/-- What is shown of a selector reads as another one, with the given blanks before it and before a
comma or the end of the text. -/
def Selector.ReadAgain (padding : Text) (selector other : Selector) : Prop :=
  ∀ v : Text, (∀ c ∈ v.head?, c = ',') →
    ∃ group, ReadsTo (padding ++ (selector.text ++ v)) group v ∧ Selector.ofPieces group = .ok other

theorem exists_chain_of_readsTo {t final : Text} {group : List Piece} {selector : Selector}
    (read : ReadsTo t group final) (joined : Selector.ofPieces group = .ok selector)
    (visible : selector.EndsVisibly) :
    ∃ shown, Chain false shown ∧ shown ≠ [] ∧ shown.map Token.meaning = selector.meaning ∧
      Token.source shown = selector.text := by
  obtain ⟨joins, nonempty⟩ := ofPieces_eq_ok_iff_joins.mp joined
  obtain ⟨chain, -⟩ := chain_of_joins joins read formed_none
  obtain ⟨shown, shownChain, meaning, source⟩ := chain.exists_trim visible
  refine ⟨shown, shownChain, ?_, meaning, source⟩
  rintro rfl
  exact nonempty (List.map_eq_nil_iff.mp meaning.symm)

theorem exists_readAgain {selector : Selector} {shown : List Token} (chain : Chain false shown)
    (nonempty : shown ≠ []) (source : Token.source shown = selector.text) :
    Selector.ReadAgain [] selector ⟨shown⟩ := by
  intro v comma
  obtain ⟨group, reads, joins⟩ := chain.exists_rereads comma
  refine ⟨group, ?_, ofPieces_eq_ok_iff_joins.mpr ⟨joins, nonempty⟩⟩
  rw [List.nil_append, ← source]
  exact reads

/-- The others have a blank before them, which a combinator that they lead with takes on. -/
theorem exists_readAgain_padded {selector : Selector} {shown : List Token}
    (chain : Chain false shown) (nonempty : shown ≠ [])
    (source : Token.source shown = selector.text) :
    Selector.ReadAgain [' '] selector ⟨padLead [' '] shown⟩ := by
  intro v comma
  obtain ⟨group, reads, joins⟩ := chain.exists_rereads comma
  have space : AllBlank [' '] := by simp [AllBlank, isBlank]
  have ends : ∀ c ∈ (selector.text ++ v).head?, isBlank c = false := by
    intro c first
    rw [List.head?_append] at first
    rcases Option.or_eq_some_iff.mp first with first | ⟨_, first⟩
    · exact (trimmed_trim _).first c first
    · rw [comma c first]
      decide
  have padded : Joins false none (.space [' '] :: group) (padLead [' '] shown) :=
    .space (joins_pad joins rfl reads.wellFormed [' '])
  have kept : padLead [' '] shown ≠ [] := by
    intro empty
    have meaning := meaning_padLead [' '] shown
    rw [empty] at meaning
    exact nonempty (List.map_eq_nil_iff.mp meaning.symm)
  refine ⟨.space [' '] :: group, ?_, ofPieces_eq_ok_iff_joins.mpr ⟨padded, kept⟩⟩
  rw [source] at reads
  exact (reads_blanks (by simp) space ends).append reads

theorem leadsAfterComment_of_meaning {selector other : Selector}
    (same : other.meaning = selector.meaning) :
    other.leadsAfterComment = selector.leadsAfterComment := by
  have kinds (tokens : List Token) :
      tokens.map Token.kind = (tokens.map Token.meaning).map Prod.fst := by
    rw [List.map_map]
    rfl
  rw [Selector.leadsAfterComment, kinds, show other.tokens.map Token.meaning = _ from same,
    Selector.leadsAfterComment, kinds]
  rfl

theorem leadsWithCombinator_of_leadsAfterComment {selector : Selector}
    (leads : selector.leadsAfterComment = true) :
    leadsWithCombinator (selector.tokens.map Token.kind) = true := by
  rw [Selector.leadsAfterComment] at leads
  split at leads
  · rename_i kinds found
    rw [found]
    exact leads
  · cases leads

theorem text_padLead {shown : List Token} (chain : Chain false shown)
    (trimmed : Trimmed (Token.source shown)) (plain : Selector.leadsAfterComment ⟨shown⟩ = false) :
    Selector.text ⟨padLead [' '] shown⟩ = Token.source shown := by
  rw [Selector.text]
  cases leads : leadsWithCombinator (shown.map Token.kind) with
  | false => rw [padLead_of_not_leads [' '] leads, trim_eq_self trimmed]
  | true =>
      obtain ⟨front, back, -, whole, padded, flush⟩ :=
        chain.exists_source_padLead rfl leads [' ']
      obtain rfl := flush.mpr plain
      have blank : AllBlank [' '] := by simp [AllBlank, isBlank]
      rw [List.nil_append] at whole padded
      rw [padded, ← whole, ← List.append_nil (Token.source shown),
        trim_of_blanks blank allBlank_nil trimmed, List.append_nil]

theorem length_text_padLead {shown : List Token} (chain : Chain false shown)
    (trimmed : Trimmed (Token.source shown)) (leads : Selector.leadsAfterComment ⟨shown⟩ = true) :
    (Selector.text ⟨padLead [' '] shown⟩).length = (Token.source shown).length + 1 := by
  obtain ⟨front, back, nonempty, whole, padded, flush⟩ :=
    chain.exists_source_padLead rfl (leadsWithCombinator_of_leadsAfterComment leads) [' ']
  have visible : front ≠ [] := by
    intro empty
    rw [flush.mp empty] at leads
    cases leads
  obtain ⟨first, last⟩ := trimmed
  rw [whole, List.head?_append_of_ne_nil _ visible] at first
  rw [whole, List.getLast?_append_of_ne_nil _ nonempty] at last
  have ends : Trimmed (front ++ ([' '] ++ back)) := by
    constructor
    · rwa [List.head?_append_of_ne_nil _ visible]
    · rwa [← List.append_assoc, List.getLast?_append_of_ne_nil _ nonempty]
  rw [Selector.text, padded, trim_eq_self ends, whole]
  simp only [List.length_append, List.length_singleton]
  omega

theorem Selector.listText_cons_cons (first second : Selector) (others : List Selector) :
    Selector.listText (first :: second :: others) =
      first.text ++ ',' :: ' ' :: Selector.listText (second :: others) := by
  simp [Selector.listText, List.intercalate]

theorem exists_readPieces_listText {first other : Selector} {rest others : List Selector}
    {padding : Text} (read : Selector.ReadAgain padding first other)
    (each : List.Forall₂ (Selector.ReadAgain [' ']) rest others) :
    ∃ groups, readPieces (padding ++ Selector.listText (first :: rest)) = .ok groups ∧
      List.Forall₂ (fun group selector => Selector.ofPieces group = .ok selector) groups
        (other :: others) := by
  induction each generalizing first other padding with
  | nil =>
      obtain ⟨group, reads, joined⟩ := read [] (by simp)
      refine ⟨[group], ?_, .cons joined .nil⟩
      have whole := readPieces_of_readsTo_nil reads
      simpa [Selector.listText, List.intercalate] using whole
  | @cons second next rest others again _ ih =>
      obtain ⟨groups, pieces, joined⟩ := ih again
      obtain ⟨group, reads, joinedFirst⟩ :=
        read (',' :: ' ' :: Selector.listText (second :: rest)) (by simp)
      refine ⟨group :: groups, ?_, .cons joinedFirst joined⟩
      rw [Selector.listText_cons_cons]
      exact readPieces_of_readsTo_comma reads pieces

/-- How a selector behind a comma comes back. -/
structure Selector.ComesBack (selector other : Selector) : Prop where
  read : Selector.ReadAgain [' '] selector other
  meaning : other.meaning = selector.meaning
  same : selector.leadsAfterComment = false → other.text = selector.text
  longer : selector.leadsAfterComment = true → other.text.length = selector.text.length + 1

theorem exists_comesBack {t final : Text} {group : List Piece} {selector : Selector}
    (read : ReadsTo t group final) (joined : Selector.ofPieces group = .ok selector)
    (visible : selector.EndsVisibly) : ∃ other, selector.ComesBack other := by
  obtain ⟨shown, chain, nonempty, meaning, source⟩ := exists_chain_of_readsTo read joined visible
  have leads : Selector.leadsAfterComment ⟨shown⟩ = selector.leadsAfterComment :=
    leadsAfterComment_of_meaning meaning
  have trimmed : Trimmed (Token.source shown) := source ▸ trimmed_trim _
  refine ⟨⟨padLead [' '] shown⟩, exists_readAgain_padded chain nonempty source,
    (meaning_padLead [' '] shown).trans meaning, ?_, ?_⟩
  · intro plain
    rw [← source]
    exact text_padLead chain trimmed (leads.trans plain)
  · intro leading
    rw [← source]
    exact length_text_padLead chain trimmed (leads.trans leading)

theorem Selector.ComesBack.length {selector other : Selector} (back : selector.ComesBack other) :
    other.text.length = selector.text.length + if selector.leadsAfterComment then 1 else 0 := by
  cases leads : selector.leadsAfterComment with
  | false => rw [back.same leads]; rfl
  | true => rw [back.longer leads]; rfl

theorem Selector.listText_singleton (selector : Selector) :
    Selector.listText [selector] = selector.text := by
  simp [Selector.listText, List.intercalate]

theorem length_listText {first other : Selector} {rest others : List Selector} {grown : Nat}
    (lead : other.text.length = first.text.length + grown)
    (each : List.Forall₂ Selector.ComesBack rest others) :
    (Selector.listText (other :: others)).length =
      (Selector.listText (first :: rest)).length + grown +
        rest.countP Selector.leadsAfterComment := by
  induction each generalizing first other grown with
  | nil => simpa [Selector.listText_singleton] using lead
  | @cons second next rest others back _ ih =>
      have following := ih back.length
      simp only [Selector.listText_cons_cons, List.length_append, List.length_cons, lead, following,
        List.countP_cons]
      omega

theorem map_eq_of_forall₂ {α β : Type} {f : α → β} {items others : List α}
    (each : List.Forall₂ (fun item other => f other = f item) items others) :
    others.map f = items.map f := by
  induction each with
  | nil => rfl
  | cons same _ ih => rw [List.map_cons, List.map_cons, same, ih]

theorem listText_eq_of_same {first other : Selector} {rest others : List Selector}
    (lead : other.text = first.text) (each : List.Forall₂ Selector.ComesBack rest others)
    (plain : ∀ selector ∈ rest, selector.leadsAfterComment = false) :
    Selector.listText (other :: others) = Selector.listText (first :: rest) := by
  have both := (List.forall₂_and_left _ _).mpr ⟨plain, each⟩
  have texts := map_eq_of_forall₂ (both.imp fun _ _ ⟨unchanged, back⟩ => back.same unchanged)
  rw [Selector.listText, Selector.listText, List.map_cons, List.map_cons, lead, texts]

theorem exists_forall₂ {α β : Type} {R : α → β → Prop} {items : List α}
    (each : ∀ item ∈ items, ∃ other, R item other) : ∃ others, List.Forall₂ R items others := by
  induction items with
  | nil => exact ⟨[], .nil⟩
  | cons item items ih =>
      obtain ⟨⟨other, related⟩, later⟩ := List.forall_mem_cons.mp each
      obtain ⟨others, relatedLater⟩ := ih later
      exact ⟨other :: others, .cons related relatedLater⟩

/-- What is shown of a list reads as a list with the same kinds and values. It is shown the same way
again unless, behind a comma, a selector has comments before the combinator that it leads with. -/
theorem listText_reread (raw : Text) (selectors : List Selector)
    (read : Selector.parseList raw = .ok selectors)
    (visible : ∀ selector ∈ selectors, selector.EndsVisibly) :
    ∃ again, Selector.parseList (Selector.listText selectors) = .ok again ∧
      again.map Selector.meaning = selectors.map Selector.meaning ∧
      (Selector.listText again = Selector.listText selectors ↔
        ∀ selector ∈ selectors.tail, selector.leadsAfterComment = false) := by
  obtain ⟨nonempty, groups⟩ := exists_group_of_mem read
  obtain ⟨first, rest, rfl⟩ := List.exists_cons_of_ne_nil nonempty
  obtain ⟨⟨_, _, _, reads, join⟩, groupsRest⟩ := List.forall_mem_cons.mp groups
  obtain ⟨visibleFirst, visibleRest⟩ := List.forall_mem_cons.mp visible
  obtain ⟨shown, chain, kept, meaning, source⟩ := exists_chain_of_readsTo reads join visibleFirst
  have lead : Selector.text ⟨shown⟩ = first.text := by
    rw [← source, Selector.text, trim_eq_self (source ▸ trimmed_trim _)]
  have back : ∀ selector ∈ rest, ∃ other, selector.ComesBack other := by
    intro selector member
    obtain ⟨_, _, _, reads, join⟩ := groupsRest selector member
    exact exists_comesBack reads join (visibleRest selector member)
  obtain ⟨others, each⟩ := exists_forall₂ back
  obtain ⟨again, readAgain, joined⟩ := exists_readPieces_listText
    (exists_readAgain chain kept source) (each.imp fun _ _ back => back.read)
  refine ⟨⟨shown⟩ :: others, parseList_eq_ok_iff.mpr ⟨again, readAgain, joined⟩, ?_, ?_, ?_⟩
  · have meanings := map_eq_of_forall₂ (each.imp fun _ _ back => back.meaning)
    rw [List.map_cons, List.map_cons, meanings, ← meaning]
    rfl
  · intro same
    have unchanged : (Selector.text ⟨shown⟩).length = first.text.length + 0 := by rw [lead]; rfl
    have length := length_listText unchanged each
    have none : rest.countP Selector.leadsAfterComment = 0 := by
      rw [same] at length
      omega
    simpa using List.countP_eq_zero.mp none
  · exact listText_eq_of_same lead each

theorem listText_reread_comments :
    ∃ again, Selector.parseList "> .a/*,*/ b, p/*x*/ > .\\,, /*y*/i" = .ok again ∧
      again.map Selector.meaning =
        ([[(.combinator .child, ">"), (.className, "a"), (.comment, ","),
            (.combinator .descendant, " "), (.tag, "b")],
          [(.tag, "p"), (.comment, "x"), (.combinator .child, ">"), (.className, ",")],
          [(.comment, "y"), (.tag, "i")]] : List (List (Kind × Text))) ∧
      Selector.listText again = "> .a/*,*/ b, p/*x*/ > .\\,, /*y*/i" := by
  obtain ⟨again, read, meaning, stable⟩ :=
    listText_reread "> .a /*,*/b, p /*x*/> .\\, ,/*y*/ i"
      [⟨[⟨.combinator .child, ">", "> "⟩, ⟨.className, "a", ".a"⟩, ⟨.comment, ",", "/*,*/"⟩,
          ⟨.combinator .descendant, " ", " "⟩, ⟨.tag, "b", "b"⟩]⟩,
        ⟨[⟨.tag, "p", "p"⟩, ⟨.comment, "x", "/*x*/"⟩, ⟨.combinator .child, ">", " > "⟩,
          ⟨.className, ",", ".\\,"⟩]⟩,
        ⟨[⟨.comment, "y", "/*y*/"⟩, ⟨.tag, "i", "i"⟩]⟩]
      (by decide +kernel) (by decide)
  exact ⟨again, read, meaning, stable.mpr (by decide)⟩

/-- Behind a comma the blank goes to a combinator that has a comment before it, one more each time
the list is shown. -/
theorem listText_unstable_comment :
    Selector.parseList ".a,/*x*/>b" =
        .ok [⟨[⟨.className, "a", ".a"⟩]⟩,
          ⟨[⟨.comment, "x", "/*x*/"⟩, ⟨.combinator .child, ">", ">"⟩, ⟨.tag, "b", "b"⟩]⟩] ∧
      Selector.listText
        [⟨[⟨.className, "a", ".a"⟩]⟩,
          ⟨[⟨.comment, "x", "/*x*/"⟩, ⟨.combinator .child, ">", ">"⟩, ⟨.tag, "b", "b"⟩]⟩] =
        ".a, /*x*/>b" ∧
      (Selector.parseList ".a, /*x*/>b").map Selector.listText = .ok ".a, /*x*/ >b" := by
  decide +kernel

end ClassLint
