import ClassLint.Proofs.Joining

/-! What the tokens of a selector keep of its source. Comments move ahead of the blanks and the
combinator that stand before the next token; apart from that the tokens are the selector as written
without the blanks around it. -/

namespace ClassLint

/-- A text that comments are set into, with the comments in order and the text without them. -/
def Woven (segment : Text) (comments : List Text) (rest : Text) : Prop :=
  ∃ (first : Text) (following : List (Text × Text)),
    segment = first ++ following.flatMap (fun part => part.1 ++ part.2) ∧
      comments = following.map Prod.fst ∧ rest = first ++ following.flatMap Prod.snd

namespace Woven

variable {segment rest : Text} {comments : List Text}

theorem nil : Woven [] [] [] := ⟨[], [], rfl, rfl, rfl⟩

theorem plain (woven : Woven segment comments rest) (t : Text) :
    Woven (t ++ segment) comments (t ++ rest) := by
  obtain ⟨first, following, rfl, rfl, rfl⟩ := woven
  exact ⟨t ++ first, following, by simp, rfl, by simp⟩

theorem comment (woven : Woven segment comments rest) (c : Text) :
    Woven (c ++ segment) (c :: comments) rest := by
  obtain ⟨first, following, rfl, rfl, rfl⟩ := woven
  exact ⟨[], (c, first) :: following, by simp, rfl, by simp⟩

theorem eq_of_no_comments (woven : Woven segment [] rest) : segment = rest := by
  obtain ⟨first, following, rfl, none, rfl⟩ := woven
  obtain rfl := List.map_eq_nil_iff.mp none.symm
  rfl

end Woven

/-! ### Pieces -/

def Piece.isComment : Piece → Bool
  | .token written => written.isComment
  | .space _ => false
  | .combinator _ => false

def Piece.comments (pieces : List Piece) : List Text :=
  (pieces.filter Piece.isComment).map Piece.source

def Piece.plain (pieces : List Piece) : Text :=
  Piece.sources (pieces.filter fun piece => !piece.isComment)

theorem woven_sources (pieces : List Piece) :
    Woven (Piece.sources pieces) (Piece.comments pieces) (Piece.plain pieces) := by
  induction pieces with
  | nil => exact .nil
  | cons piece pieces ih =>
      cases comment : piece.isComment with
      | true =>
          simpa [Piece.sources, Piece.comments, Piece.plain, comment] using ih.comment piece.source
      | false =>
          simpa [Piece.sources, Piece.comments, Piece.plain, comment] using ih.plain piece.source

theorem intercalate_sources {t : Text} {groups : List (List Piece)}
    (read : readPieces t = .ok groups) : [','].intercalate (groups.map Piece.sources) = t := by
  induction groups generalizing t with
  | nil =>
      obtain ⟨group, others, same, _⟩ := exists_readsTo read
      cases same
  | cons group groups ih =>
      obtain ⟨_, _, same, ended | ⟨rest, divided, following⟩⟩ := exists_readsTo read
      · obtain ⟨whole, rfl⟩ := ended
        cases same
        simpa [List.intercalate] using whole.sources_append
      · cases same
        have others := ih following
        obtain ⟨next, more, rfl, _⟩ := exists_readsTo following
        rw [← divided.sources_append, ← others]
        simp [List.intercalate]

/-! ### Tokens -/

theorem filter_isComment_gapTokens (after : Bool) (gap : Option Gap) :
    (Gap.tokens after gap).filter Token.isComment = [] := by
  obtain _ | ⟨_ | combinator, raw⟩ := gap <;> cases after <;> rfl

theorem filter_not_isComment_gapTokens (after : Bool) (gap : Option Gap) :
    (Gap.tokens after gap).filter (fun token => !token.isComment) = Gap.tokens after gap := by
  obtain _ | ⟨_ | combinator, raw⟩ := gap <;> cases after <;> rfl

section Joining

variable {after : Bool} {gap : Option Gap} {pieces : List Piece} {tokens : List Token}

theorem comments_of_joins (joins : Joins after gap pieces tokens) :
    (tokens.filter Token.isComment).map Token.raw = Piece.comments pieces := by
  induction joins with
  | closing after gap => obtain _ | ⟨_ | combinator, raw⟩ := gap <;> rfl
  | space joined ih => exact ih
  | combinator added joined ih => exact ih
  | comment comment joined ih =>
      simp [Piece.comments, Piece.isComment, Piece.source, comment, ih]
  | token named joined ih =>
      simp [Piece.comments, Piece.isComment, named, filter_isComment_gapTokens, ih]

theorem exists_source_gapTokens (after : Bool) (formed : Gap.Formed gap) :
    ∃ before, AllBlank before ∧ (after = true → before = []) ∧
      Gap.source gap = before ++ Token.source (Gap.tokens after gap) := by
  have kept (whole : Gap.source gap = Token.source (Gap.tokens after gap)) :
      ∃ before, AllBlank before ∧ (after = true → before = []) ∧
        Gap.source gap = before ++ Token.source (Gap.tokens after gap) :=
    ⟨[], allBlank_nil, fun _ => rfl, whole⟩
  obtain _ | ⟨_ | combinator, raw⟩ := gap
  · exact kept rfl
  · cases after with
    | true => exact kept (List.append_nil raw).symm
    | false => exact ⟨raw, (formed_some.mp formed).2, by simp, (List.append_nil raw).symm⟩
  · exact kept (List.append_nil raw).symm

theorem exists_source_closing (formed : Gap.Formed gap) :
    ∃ behind, AllBlank behind ∧ Gap.source gap = Token.source (Gap.closing gap) ++ behind := by
  obtain _ | ⟨_ | combinator, raw⟩ := gap
  · exact ⟨[], allBlank_nil, rfl⟩
  · exact ⟨raw, (formed_some.mp formed).2, rfl⟩
  · exact ⟨[], allBlank_nil, by simp [Gap.source, Gap.closing, Token.source, Token.ofCombinator]⟩

theorem filter_not_isComment_closing (gap : Option Gap) :
    (Gap.closing gap).filter (fun token => !token.isComment) = Gap.closing gap := by
  obtain _ | ⟨_ | combinator, raw⟩ := gap <;> rfl

/-- The tokens keep, in order, all that is written between the comments, except for blanks at the
end, and at the start if there is no token yet. -/
theorem exists_plain_of_joins (joins : Joins after gap pieces tokens)
    (sound : ∀ piece ∈ pieces, piece.Sound) (formed : Gap.Formed gap) :
    ∃ before behind, AllBlank before ∧ (after = true → before = []) ∧ AllBlank behind ∧
      Gap.source gap ++ Piece.plain pieces =
        before ++ (Token.source (tokens.filter fun token => !token.isComment) ++ behind) := by
  induction joins with
  | closing after gap =>
      obtain ⟨behind, trailing, whole⟩ := exists_source_closing formed
      refine ⟨[], behind, allBlank_nil, fun _ => rfl, trailing, ?_⟩
      rw [filter_not_isComment_closing, ← whole]
      exact List.append_nil _
  | @space after gap blanks pieces tokens joined ih =>
      obtain ⟨⟨blank, nonempty⟩, others⟩ := List.forall_mem_cons.mp sound
      obtain ⟨before, behind, leading, flush, trailing, whole⟩ :=
        ih others (formed_addBlanks nonempty blank formed)
      refine ⟨before, behind, leading, flush, trailing, ?_⟩
      rw [← whole, source_addBlanks, List.append_assoc]
      rfl
  | @combinator after gap next combinator pieces tokens added joined ih =>
      obtain ⟨⟨explicit, -⟩, others⟩ := List.forall_mem_cons.mp sound
      obtain ⟨before, behind, leading, flush, trailing, whole⟩ :=
        ih others (formed_addCombinator explicit formed added)
      refine ⟨before, behind, leading, flush, trailing, ?_⟩
      rw [← whole, source_addCombinator added, List.append_assoc]
      rfl
  | @comment after gap token pieces tokens comment joined ih =>
      obtain ⟨-, others⟩ := List.forall_mem_cons.mp sound
      obtain ⟨before, behind, leading, flush, trailing, whole⟩ := ih others formed
      refine ⟨before, behind, leading, flush, trailing, ?_⟩
      simpa [Piece.plain, Piece.isComment, comment] using whole
  | @token after gap token pieces tokens named joined ih =>
      obtain ⟨-, others⟩ := List.forall_mem_cons.mp sound
      obtain ⟨_, behind, -, flush, trailing, whole⟩ := ih others formed_none
      obtain ⟨before, leading, flushBefore, written⟩ := exists_source_gapTokens after formed
      -- Behind a token nothing is lost of what comes next.
      obtain rfl := flush rfl
      refine ⟨before, behind, leading, flushBefore, trailing, ?_⟩
      have plain : Piece.plain (.token token :: pieces) = token.raw ++ Piece.plain pieces := by
        simp [Piece.plain, Piece.sources, Piece.isComment, Piece.source, named]
      have rest : Piece.plain pieces =
          Token.source (tokens.filter fun token => !token.isComment) ++ behind := whole
      rw [plain, rest, written, List.filter_append, filter_not_isComment_gapTokens]
      simp [Token.source, named]

end Joining

/-- The comments of a selector are set into its source in order, and the rest of the source is, up
to the blanks around it, what the other tokens are written with. -/
def Selector.SpelledBy (selector : Selector) (segment : Text) : Prop :=
  ∃ rest, Woven segment (selector.comments.map Token.raw) rest ∧
    trim rest = trim (Token.source selector.withoutComments.tokens)

theorem spelledBy_sources {t final : Text} {group : List Piece} {selector : Selector}
    (read : ReadsTo t group final) (joined : Selector.ofPieces group = .ok selector) :
    selector.SpelledBy (Piece.sources group) := by
  obtain ⟨joins, -⟩ := ofPieces_eq_ok_iff_joins.mp joined
  obtain ⟨before, behind, leading, -, trailing, whole⟩ :=
    exists_plain_of_joins joins read.sound formed_none
  refine ⟨Piece.plain group, ?_, ?_⟩
  · rw [Selector.comments, comments_of_joins joins]
    exact woven_sources group
  · have plain : Piece.plain group = before ++
        (Token.source selector.withoutComments.tokens ++ behind) := whole
    rw [plain, trim_append_blanks leading trailing]

theorem text_of_spelledBy {selector : Selector} {segment : Text}
    (spelled : selector.SpelledBy segment) (none : selector.comments = []) :
    selector.text = trim segment := by
  obtain ⟨rest, woven, same⟩ := spelled
  rw [none] at woven
  have all : selector.withoutComments.tokens = selector.tokens := by
    apply List.filter_eq_self.mpr
    intro token member
    have plain := List.filter_eq_nil_iff.mp none token member
    simpa using plain
  rw [woven.eq_of_no_comments, same, all, Selector.text]

/-- Reading loses nothing: the text is one segment for each selector with commas between, and each
selector is spelled by its segment. -/
theorem parseList_lossless (raw : Text) (selectors : List Selector)
    (read : Selector.parseList raw = .ok selectors) :
    ∃ segments, raw = [','].intercalate segments ∧
      List.Forall₂ (fun segment selector => selector.SpelledBy segment ∧
        (selector.comments = [] → selector.text = trim segment)) segments selectors := by
  obtain ⟨groups, pieces, each⟩ := exists_groups_of_parseList read
  refine ⟨groups.map Piece.sources, (intercalate_sources pieces).symm, ?_⟩
  refine List.forall₂_map_left_iff.mpr (each.imp ?_)
  rintro group selector ⟨⟨t, final, found⟩, join⟩
  have spelled := spelledBy_sources found join
  exact ⟨spelled, text_of_spelledBy spelled⟩

theorem parseList_lossless_commented :
    ∃ segments, (".a /*,*/>/**/ b ,[t=\"x,y\"]" : Text) = [','].intercalate segments ∧
      List.Forall₂ (fun segment selector => Selector.SpelledBy selector segment ∧
        (selector.comments = [] → selector.text = trim segment)) segments
        [⟨[⟨.className, "a", ".a"⟩, ⟨.comment, ",", "/*,*/"⟩, ⟨.comment, "", "/**/"⟩,
            ⟨.combinator .child, ">", " > "⟩, ⟨.tag, "b", "b"⟩]⟩,
          ⟨[⟨.attribute, "t", "[t=\"x,y\"]"⟩]⟩] :=
  parseList_lossless _ _ (by decide +kernel)

end ClassLint
