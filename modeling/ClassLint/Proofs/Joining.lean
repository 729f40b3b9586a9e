import ClassLint.Proofs.CommaLists

/-! How the pieces of a selector join, as a relation with one case for each kind of piece, and what
the gaps between tokens are made of. -/

namespace ClassLint

inductive Joins : Bool → Option Gap → List Piece → List Token → Prop where
  | closing (after : Bool) (gap : Option Gap) : Joins after gap [] (Gap.closing gap)
  | space {after : Bool} {gap : Option Gap} {blanks : Text} {pieces : List Piece}
      {tokens : List Token} (joined : Joins after (some (Gap.addBlanks blanks gap)) pieces tokens) :
      Joins after gap (.space blanks :: pieces) tokens
  | combinator {after : Bool} {gap : Option Gap} {next : Gap} {combinator : Combinator}
      {pieces : List Piece} {tokens : List Token}
      (added : Gap.addCombinator combinator gap = .ok next)
      (joined : Joins after (some next) pieces tokens) :
      Joins after gap (.combinator combinator :: pieces) tokens
  | comment {after : Bool} {gap : Option Gap} {token : Token} {pieces : List Piece}
      {tokens : List Token} (comment : token.isComment = true)
      (joined : Joins after gap pieces tokens) :
      Joins after gap (.token token :: pieces) (token :: tokens)
  | token {after : Bool} {gap : Option Gap} {token : Token} {pieces : List Piece}
      {tokens : List Token} (named : token.isComment = false)
      (joined : Joins true none pieces tokens) :
      Joins after gap (.token token :: pieces) (Gap.tokens after gap ++ token :: tokens)

section Joining

variable {after : Bool} {gap : Option Gap} {pieces : List Piece} {tokens : List Token}

theorem joins_of_joinPieces (joined : joinPieces after gap pieces = .ok tokens) :
    Joins after gap pieces tokens := by
  induction pieces generalizing after gap tokens with
  | nil =>
      cases joined
      exact .closing after gap
  | cons piece pieces ih =>
      cases piece with
      | space blanks => exact .space (ih joined)
      | combinator combinator =>
          rw [joinPieces] at joined
          split at joined
          · cases joined
          · rename_i next added
            exact .combinator added (ih joined)
      | token token =>
          rw [joinPieces] at joined
          split at joined
          · rename_i comment
            obtain ⟨rest, more, rfl⟩ := exists_of_map_eq_ok joined
            exact .comment comment (ih more)
          · rename_i named
            obtain ⟨rest, more, rfl⟩ := exists_of_map_eq_ok joined
            exact .token (by simpa using named) (ih more)

theorem joinPieces_of_joins (joins : Joins after gap pieces tokens) :
    joinPieces after gap pieces = .ok tokens := by
  induction joins with
  | closing after gap => rfl
  | space joined ih => exact ih
  | combinator added joined ih => rw [joinPieces, added]; exact ih
  | comment comment joined ih =>
      rw [joinPieces, if_pos comment, ih]
      rfl
  | token named joined ih =>
      rw [joinPieces, if_neg (by simp [named]), ih]
      rfl

theorem joinPieces_eq_ok_iff :
    joinPieces after gap pieces = .ok tokens ↔ Joins after gap pieces tokens :=
  ⟨joins_of_joinPieces, joinPieces_of_joins⟩

end Joining

theorem ofPieces_eq_ok_iff_joins {pieces : List Piece} {selector : Selector} :
    Selector.ofPieces pieces = .ok selector ↔
      Joins false none pieces selector.tokens ∧ selector.tokens ≠ [] := by
  rw [ofPieces_eq_ok_iff, joinPieces_eq_ok_iff]

/-! ### Gaps -/

/-- Blanks, or a combinator with a mark of its own between blanks. -/
def Gap.WellFormed (gap : Gap) : Prop :=
  match gap.combinator? with
  | none => gap.raw ≠ [] ∧ AllBlank gap.raw
  | some combinator => combinator ≠ .descendant ∧ ∃ before behind,
      AllBlank before ∧ AllBlank behind ∧ gap.raw = before ++ combinator.mark :: behind

def Gap.Formed (gap : Option Gap) : Prop := ∀ present ∈ gap, present.WellFormed

def Gap.source (gap : Option Gap) : Text := gap.elim [] Gap.raw

theorem formed_none : Gap.Formed none := by simp [Gap.Formed]

theorem formed_some {gap : Gap} : Gap.Formed (some gap) ↔ gap.WellFormed := by simp [Gap.Formed]

theorem closing_eq_nil_or (gap : Option Gap) :
    Gap.closing gap = [] ∨ ∃ combinator raw, gap = some ⟨some combinator, raw⟩ := by
  obtain _ | ⟨_ | combinator, raw⟩ := gap
  · exact .inl rfl
  · exact .inl rfl
  · exact .inr ⟨combinator, raw, rfl⟩

theorem gapTokens_false (gap : Option Gap) : Gap.tokens false gap = Gap.closing gap := by
  obtain _ | ⟨_ | combinator, raw⟩ := gap <;> rfl

theorem source_addBlanks (blanks : Text) (gap : Option Gap) :
    Gap.source (some (Gap.addBlanks blanks gap)) = Gap.source gap ++ blanks := by
  cases gap <;> rfl

theorem source_addCombinator {combinator : Combinator} {gap : Option Gap} {next : Gap}
    (added : Gap.addCombinator combinator gap = .ok next) :
    Gap.source (some next) = Gap.source gap ++ [combinator.mark] := by
  obtain _ | ⟨_ | earlier, raw⟩ := gap <;> cases added <;> rfl

theorem formed_addBlanks {blanks : Text} {gap : Option Gap} (nonempty : blanks ≠ [])
    (blank : AllBlank blanks) (formed : Gap.Formed gap) :
    Gap.Formed (some (Gap.addBlanks blanks gap)) := by
  rw [formed_some]
  obtain _ | ⟨_ | combinator, raw⟩ := gap
  · exact ⟨nonempty, blank⟩
  · obtain ⟨_, earlier⟩ := formed_some.mp formed
    have nonempty : raw ++ blanks ≠ [] := by simp [nonempty]
    exact ⟨nonempty, allBlank_append.mpr ⟨earlier, blank⟩⟩
  · obtain ⟨explicit, before, behind, leading, trailing, whole⟩ := formed_some.mp formed
    refine ⟨explicit, before, behind ++ blanks, leading,
      allBlank_append.mpr ⟨trailing, blank⟩, ?_⟩
    change raw ++ blanks = _
    rw [show raw = _ from whole]
    simp

theorem formed_addCombinator {combinator : Combinator} {gap : Option Gap} {next : Gap}
    (explicit : combinator ≠ .descendant) (formed : Gap.Formed gap)
    (added : Gap.addCombinator combinator gap = .ok next) : Gap.Formed (some next) := by
  rw [formed_some]
  obtain _ | ⟨_ | earlier, raw⟩ := gap <;> cases added
  · exact ⟨explicit, [], [], allBlank_nil, allBlank_nil, rfl⟩
  · obtain ⟨_, blank⟩ := formed_some.mp formed
    exact ⟨explicit, raw, [], blank, allBlank_nil, rfl⟩

def Piece.Sound (piece : Piece) : Prop := piece.WellFormed ∧ piece.source ≠ []

theorem ReadsTo.sound {t final : Text} {pieces : List Piece} (read : ReadsTo t pieces final) :
    ∀ piece ∈ pieces, piece.Sound := by
  induction read with
  | done t => simp
  | piece inside read more ih =>
      exact List.forall_mem_cons.mpr
        ⟨⟨wellFormed_of_readPiece read, readPiece_source_ne_nil read⟩, ih⟩

/-- A list is read from groups of pieces, each read from some text and joined to a selector. -/
theorem exists_groups_of_parseList {raw : Text} {selectors : List Selector}
    (read : Selector.parseList raw = .ok selectors) :
    ∃ groups, readPieces raw = .ok groups ∧
      List.Forall₂ (fun group selector => (∃ t final, ReadsTo t group final) ∧
        Selector.ofPieces group = .ok selector) groups selectors := by
  obtain ⟨groups, pieces, joined⟩ := parseList_eq_ok_iff.mp read
  exact ⟨groups, pieces, (List.forall₂_and_left _ _).mpr ⟨exists_readsTo_of_mem pieces, joined⟩⟩

theorem exists_group_of_mem {raw : Text} {selectors : List Selector}
    (read : Selector.parseList raw = .ok selectors) :
    selectors ≠ [] ∧ ∀ selector ∈ selectors, ∃ t final group,
      ReadsTo t group final ∧ Selector.ofPieces group = .ok selector := by
  obtain ⟨groups, pieces, each⟩ := exists_groups_of_parseList read
  constructor
  · rintro rfl
    obtain rfl := List.forall₂_nil_right_iff.mp each
    obtain ⟨_, _, none, -⟩ := exists_readsTo pieces
    cases none
  · refine forall_mem_of_forall₂ each.flip ?_
    rintro selector group ⟨⟨t, final, reads⟩, join⟩
    exact ⟨t, final, group, reads, join⟩

end ClassLint
