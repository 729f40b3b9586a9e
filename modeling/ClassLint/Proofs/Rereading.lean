import ClassLint.Proofs.Joining

/-! Reading tokens again in front of another text. What follows a token matters to it only by the
characters that would make it longer. -/

namespace ClassLint

/-- A text that makes no token longer that the other one does not make longer: it starts a name, or
arguments in parentheses, only if the other does. -/
structure NotLonger (other after : Text) : Prop where
  name : StartsName other → StartsName after
  arguments : other.head? = some '(' → after.head? = some '('

section Exchange

variable {s v w : Text} {piece : Piece}

theorem takeName_exchange {name : Name} (read : takeName (s ++ v) = .ok name)
    (left : name.rest = v) (notLonger : NotLonger w v) :
    takeName (s ++ w) = .ok ⟨name.value, name.raw, w⟩ := by
  have same := takeName_append read
  rw [left] at same
  rw [← List.append_cancel_right same]
  apply takeName_replace read
  intro starts
  exact not_startsName_rest read (left ▸ notLonger.name starts)

theorem takeGroup_exchange {bracket : Bracket} {taken : Taken} (closing : bracket.closing ≠ '\\')
    (read : takeGroup bracket none 0 (s ++ v) = .ok taken) (left : taken.2 = v) (w : Text) :
    takeGroup bracket none 0 (s ++ w) = .ok (taken.1, w) := by
  have same := takeGroup_append read
  rw [left] at same
  rw [← List.append_cancel_right same]
  exact takeGroup_replace closing read w

theorem takeComment_exchange {taken : Taken} (read : takeComment (s ++ v) = some taken)
    (left : taken.2 = v) (w : Text) : takeComment (s ++ w) = some (taken.1, w) := by
  have same := takeComment_append read
  have again := takeComment_replace read w
  rw [left] at same
  have whole : (taken.1 ++ ['*', '/']) ++ v = s ++ v := by simpa using same
  rw [← List.append_cancel_right whole]
  simpa using again

theorem readMarked_exchange {kind : Kind} {mark : Char} (notLonger : NotLonger w v)
    (read : readMarked kind mark (s ++ v) = .ok (piece, v)) :
    readMarked kind mark (s ++ w) = .ok (piece, w) := by
  unfold readMarked at read ⊢
  grind [→ takeName_exchange]

theorem readPlaceholder_exchange (notLonger : NotLonger w v)
    (read : readPlaceholder (s ++ v) = .ok (piece, v)) :
    readPlaceholder (s ++ w) = .ok (piece, w) := by
  unfold readPlaceholder at read ⊢
  grind [→ takeName_exchange]

theorem readNesting_exchange (notLonger : NotLonger w v)
    (read : readNesting (s ++ v) = .ok (piece, v)) : readNesting (s ++ w) = .ok (piece, w) := by
  unfold readNesting at read ⊢
  grind [→ takeName_exchange]

theorem readTag_exchange (notLonger : NotLonger w v) (read : readTag (s ++ v) = .ok (piece, v)) :
    readTag (s ++ w) = .ok (piece, w) := by
  unfold readTag at read ⊢
  grind [→ takeName_exchange]

theorem readAttribute_exchange (w : Text) (read : readAttribute (s ++ v) = .ok (piece, v)) :
    readAttribute (s ++ w) = .ok (piece, w) := by
  unfold readAttribute at read ⊢
  split at read
  · cases read
  · rename_i group found
    simp only at read ⊢
    split at read
    · cases read
    · rename_i named
      injection read with same
      injection same with token left
      rw [takeGroup_exchange (by decide) found left w]
      simp [named, token]

theorem readPseudo_exchange {colons : Text} (notLonger : NotLonger w v)
    (read : readPseudo colons (s ++ v) = .ok (piece, v)) :
    readPseudo colons (s ++ w) = .ok (piece, w) := by
  unfold readPseudo at read ⊢
  split at read
  · cases read
  · rename_i name found
    split at read
    · cases read
    · rename_i named
      simp only at read
      split at read
      · rename_i arguments opened
        split at read
        · cases read
        · rename_i group enclosed
          injection read with same
          injection same with token left
          have source : (name.raw ++ '(' :: group.1) ++ v = s ++ v := by
            rw [← takeName_append found, opened, ← takeGroup_append enclosed, left]
            simp
          have again : takeName (name.raw ++ '(' :: (group.1 ++ w)) =
              .ok ⟨name.value, name.raw, '(' :: (group.1 ++ w)⟩ :=
            takeName_replace found (by simp [startsName_cons_iff, isNameCharacter, isNameStart])
          rw [← List.append_cancel_right source, List.append_assoc, List.cons_append, again]
          simp [named, takeGroup_replace (by decide) enclosed w, ← token]
      · rename_i unopened
        injection read with same
        injection same with token left
        rw [takeName_exchange found left notLonger]
        have closed : ∀ arguments, w ≠ '(' :: arguments := by
          rintro arguments rfl
          obtain ⟨rest, opened⟩ := List.head?_eq_some_iff.mp (notLonger.arguments rfl)
          exact unopened rest (left.trans opened)
        simp only [named]
        grind

theorem readComment_exchange (w : Text) (read : readComment (s ++ v) = .ok (piece, v)) :
    readComment (s ++ w) = .ok (piece, w) := by
  cases s with
  | nil =>
      -- The comment would have been read from what it leaves over.
      have same := congrArg List.length (readComment_append read)
      unfold readComment at read
      grind [Piece.source]
  | cons c s =>
      unfold readComment at read ⊢
      simp only [List.cons_append] at read ⊢
      split at read
      · rename_i body same
        injection same with star whole
        subst star whole
        split at read
        · rename_i taken found
          injection read with same
          injection same with token left
          simp [takeComment_exchange found left w, token]
        · cases read
      · cases read

theorem takeName_value_eq_nil {t : Text} {name : Name} (read : takeName t = .ok name)
    (empty : name.raw = []) : name.value = [] := by
  have whole := takeName_append read
  rw [empty, List.nil_append] at whole
  have stops := takeName_of_stop (whole ▸ not_startsName_rest read)
  rw [stops] at read
  cases read
  rfl

theorem readMarked_rest_ne {kind : Kind} {mark : Char} :
    readMarked kind mark v ≠ .ok (piece, v) := by
  intro read
  unfold readMarked at read
  split at read
  · cases read
  · rename_i name found
    split at read
    · cases read
    · rename_i named
      injection read with same
      injection same with token left
      have whole := takeName_append found
      rw [left] at whole
      have empty : name.raw = [] := List.append_cancel_right (whole.trans (List.nil_append v).symm)
      exact named (by simp [takeName_value_eq_nil found empty])

theorem readPseudo_rest_ne {colons : Text} : readPseudo colons v ≠ .ok (piece, v) := by
  intro read
  have source : piece.source = colons := List.append_cancel_right (readPseudo_append read)
  unfold readPseudo at read
  split at read
  · cases read
  · rename_i name found
    split at read
    · cases read
    · rename_i named
      have written : colons ++ name.raw <+: piece.source := by
        simp only at read
        split at read
        · split at read
          · cases read
          · cases read
            exact List.prefix_append _ _
        · cases read
          exact List.prefix_rfl
      have shorter := written.length_le
      rw [source, List.length_append] at shorter
      have empty : name.raw = [] := List.eq_nil_of_length_eq_zero (by omega)
      exact named (by simp [takeName_value_eq_nil found empty])

theorem readTag_rest_ne : readTag ('#' :: v) ≠ .ok (piece, v) := by
  intro read
  have alone : readTag ['#'] = .ok (piece, []) := readTag_cut (s := ['#']) read
  rw [readTag, takeName_of_stop (by simp [StartsName, isNameCharacter, isNameStart])] at alone
  cases alone

theorem readToken_exchange {c : Char} (notLonger : NotLonger w v)
    (read : readToken c (s ++ v) = .ok (piece, v)) : readToken c (s ++ w) = .ok (piece, w) := by
  unfold readToken at read ⊢
  split at read
  · exact readMarked_exchange notLonger read
  -- a hash before a brace opens an interpolation; the brace has to be part of the token
  · rename_i rest opened
    cases s with
    | nil =>
        rw [List.nil_append] at opened
        exact absurd (opened ▸ read) readTag_rest_ne
    | cons d s =>
        injection opened with brace same
        subst brace same
        exact readTag_exchange (s := '#' :: '{' :: s) notLonger read
  · rename_i unopened
    have again := readMarked_exchange notLonger read
    cases s with
    | nil => exact absurd read readMarked_rest_ne
    | cons d s =>
        have plain : d ≠ '{' := fun same => unopened (s ++ v) (by rw [same]; rfl)
        split <;> simp_all
  · simpa using read
  · exact readNesting_exchange notLonger read
  · exact readAttribute_exchange w read
  -- likewise the second colon of two
  · rename_i rest colons
    cases s with
    | nil =>
        have same := congrArg List.length (readPseudo_append read)
        unfold readPseudo at read
        grind [Piece.source]
    | cons d s =>
        injection colons with mark same
        subst mark same
        exact readPseudo_exchange notLonger read
  · rename_i single
    have again := readPseudo_exchange notLonger read
    cases s with
    | nil => exact absurd read readPseudo_rest_ne
    | cons d s =>
        have plain : d ≠ ':' := fun same => single (s ++ v) (by rw [same]; rfl)
        split <;> simp_all
  · exact readComment_exchange w read
  · exact readPlaceholder_exchange notLonger read
  · split at read
    · rename_i starts
      have again := readTag_exchange (s := _ :: s) notLonger read
      split <;> simp_all
    · cases read

end Exchange

/-! ### Tokens in front of a text -/

/-- The token is read as such in front of the text. -/
def Token.ReadBefore (token : Token) (v : Text) : Prop :=
  ReadsTo (token.raw ++ v) [.token token] v

theorem readBefore_of_readPiece {c : Char} {rest v : Text} {token : Token} (inside : c ≠ ',')
    (read : readPiece c rest = .ok (.token token, v)) : token.ReadBefore v := by
  have source : token.raw ++ v = c :: rest := readPiece_append read
  rw [Token.ReadBefore, source]
  exact .piece inside read (.done v)

namespace Token.ReadBefore

variable {token : Token} {v w : Text}

theorem exists_readToken (read : token.ReadBefore v) :
    ∃ c s, token.raw = c :: s ∧ c ≠ ',' ∧ isBlank c = false ∧ Combinator.ofMark? c = none ∧
      readToken c (s ++ v) = .ok (.token token, v) := by
  rw [Token.ReadBefore] at read
  generalize whole : token.raw ++ v = t at read
  cases read with
  | @piece c rest after _ _ _ inside read more =>
      cases more
      obtain ⟨d, s, source⟩ := List.exists_cons_of_ne_nil (readPiece_source_ne_nil read)
      have written : token.raw = d :: s := source
      rw [written] at whole
      injection whole with first others
      subst first others
      unfold readPiece at read
      split at read
      · cases read
      · rename_i visible
        split at read
        · cases read
        · rename_i unmarked
          exact ⟨d, s, written, inside, by simpa using visible, unmarked, read⟩

/-- A token is read again in front of any text that does not make it longer. -/
theorem exchange (read : token.ReadBefore v) (notLonger : NotLonger w v) : token.ReadBefore w := by
  obtain ⟨c, s, written, inside, visible, unmarked, found⟩ := read.exists_readToken
  have again : readPiece c (s ++ w) = .ok (.token token, w) := by
    rw [readPiece, if_neg (by simp [visible]), unmarked]
    exact readToken_exchange notLonger found
  exact readBefore_of_readPiece inside again

theorem raw_ne_nil (read : token.ReadBefore v) : token.raw ≠ [] := by
  obtain ⟨c, s, written, _⟩ := read.exists_readToken
  simp [written]

theorem first_visible (read : token.ReadBefore v) (rest : Text) :
    ∀ c ∈ (token.raw ++ rest).head?, isBlank c = false := by
  obtain ⟨c, s, written, _, visible, _⟩ := read.exists_readToken
  simp [written, visible]

theorem raw_ne_hash (read : token.ReadBefore v) : token.raw ≠ ['#'] := by
  intro hash
  obtain ⟨c, s, written, _, _, _, found⟩ := read.exists_readToken
  obtain ⟨rfl, rfl⟩ : '#' = c ∧ [] = s := by simpa [hash] using written
  by_cases opened : v.head? = some '{'
  · obtain ⟨rest, rfl⟩ := List.head?_eq_some_iff.mp opened
    exact readTag_rest_ne found
  · have marked : readToken '#' v = readMarked .id '#' v := by
      unfold readToken
      split <;> simp_all
    exact readMarked_rest_ne (marked ▸ found)

theorem combinator?_eq_none (read : token.ReadBefore v) : token.combinator? = none := by
  have wellFormed := ReadsTo.wellFormed read (.token token) List.mem_cons_self
  exact wellFormed.2.1

theorem slash_of_comment {c : Char} {rest : Text} (comment : token.isComment = true)
    (read : readToken c rest = .ok (.token token, v)) : c = '/' := by
  have kind : token.kind = .comment := eq_of_beq comment
  by_contra other
  unfold readToken at read
  split at read
  case h_9 => exact other rfl
  all_goals
    grind [readMarked, readTag, readNesting, readAttribute, readPseudo, readPlaceholder, pseudoKind]

theorem comment_exchange (comment : token.isComment = true) (read : token.ReadBefore v)
    (w : Text) : token.ReadBefore w := by
  obtain ⟨c, s, written, inside, visible, unmarked, found⟩ := read.exists_readToken
  obtain rfl := slash_of_comment comment found
  have again : readPiece '/' (s ++ w) = .ok (.token token, w) := readComment_exchange w found
  exact readBefore_of_readPiece inside again

theorem head?_comment (comment : token.isComment = true) (read : token.ReadBefore v) :
    ∃ s, token.raw = '/' :: s := by
  obtain ⟨c, s, written, _, _, _, found⟩ := read.exists_readToken
  exact ⟨s, slash_of_comment comment found ▸ written⟩

end Token.ReadBefore

theorem notLonger_append {s : Text} (nonempty : s ≠ []) (hash : s ≠ ['#']) (a b : Text) :
    NotLonger (s ++ a) (s ++ b) := by
  obtain ⟨c, s, rfl⟩ := List.exists_cons_of_ne_nil nonempty
  constructor
  · simp only [List.cons_append, startsName_cons_iff]
    rintro (⟨rfl, brace⟩ | other)
    · cases s with
      | nil => exact absurd rfl hash
      | cons d s => exact .inl ⟨rfl, brace⟩
    · exact .inr other
  · exact id

theorem notLonger_append_stop {v : Text} (stop : ∀ c ∈ v.head?, c = ',' ∨ c = ' ') (s : Text) :
    NotLonger (s ++ v) s := by
  have ends (c : Char) (other : ¬(c = ',' ∨ c = ' ')) : v.head? ≠ some c :=
    fun first => other (stop c first)
  constructor
  · cases s with
    | nil =>
        cases v with
        | nil => exact id
        | cons d v =>
            rcases stop d rfl with rfl | rfl <;>
              simp [startsName_cons_iff, isNameCharacter, isNameStart]
    | cons d s =>
        simp only [List.cons_append, startsName_cons_iff]
        rintro (⟨rfl, brace⟩ | other)
        · cases s with
          | nil => exact absurd brace (ends '{' (by decide))
          | cons e s => exact .inl ⟨rfl, brace⟩
        · exact .inr other
  · cases s with
    | nil => exact fun opened => absurd opened (ends '(' (by decide))
    | cons d s => exact id

theorem notLonger_slash (t after : Text) : NotLonger ('/' :: t) after := by
  constructor
  · simp [startsName_cons_iff, isNameCharacter, isNameStart]
  · simp

theorem notLonger_nil (after : Text) : NotLonger [] after := ⟨False.elim, by simp⟩

end ClassLint
