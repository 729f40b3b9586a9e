import ClassLint.Proofs.Continuation

/-! Lists of selectors joined by a comma. A list that can be read leaves nothing open, so what comes
after the comma is read as on its own, and fails as on its own. -/

namespace ClassLint

theorem consPiece_append (piece : Piece) {groups : List (List Piece)} (nonempty : groups ≠ [])
    (others : List (List Piece)) :
    consPiece piece (groups ++ others) = consPiece piece groups ++ others := by
  cases groups with
  | nil => exact absurd rfl nonempty
  | cons group groups => rfl

theorem readsTo_append_comma {c : Char} {rest after : Text} {piece : Piece} (inside : c ≠ ',')
    (read : readPiece c rest = .ok (piece, after)) (more : Text) :
    ReadsTo (c :: rest ++ ',' :: more) [piece] (after ++ ',' :: more) := by
  cases blank : isBlank c with
  | false => exact readsTo_visible_append inside blank read (by simp)
  | true =>
      rw [readPiece, if_pos blank] at read
      cases read
      apply readsTo_blanks_append blank
      intro d first
      rw [List.head?_append] at first
      cases left : (rest.dropWhile isBlank).head? with
      | none =>
          rw [left] at first
          cases first
          decide
      | some other =>
          rw [left] at first
          cases first
          exact visible_dropWhile rest _ left

theorem readPieces_append_comma {t : Text} {groups : List (List Piece)}
    (read : readPieces t = .ok groups) (more : Text) :
    readPieces (t ++ ',' :: more) = (readPieces more).map (groups ++ ·) := by
  fun_induction readPieces t generalizing groups
  case case1 =>
    cases read
    rw [List.nil_append, readPieces, if_pos rfl]
    rfl
  case case2 rest ih =>
    obtain ⟨others, following, rfl⟩ := exists_of_map_eq_ok read
    rw [List.cons_append, readPieces, if_pos rfl, ih following]
    cases readPieces more <;> rfl
  case case3 => cases read
  case case4 c rest inside piece after found _ ih =>
    obtain ⟨others, following, rfl⟩ := exists_of_map_eq_ok read
    have nonempty : others ≠ [] := by
      obtain ⟨first, behind, same, -⟩ := exists_readsTo following
      simp [same]
    rw [readPieces_of_readsTo_single (readsTo_append_comma inside found more), ih following]
    cases readPieces more with
    | error fault => rfl
    | ok groups => exact congrArg Except.ok (consPiece_append piece nonempty groups)

theorem mapM_append_of_ok {ε α β : Type} {f : α → Except ε β} {items : List α} {results : List β}
    (first : items.mapM f = .ok results) (others : List α) :
    (items ++ others).mapM f = (others.mapM f).map (results ++ ·) := by
  rw [List.mapM_append, first]
  cases others.mapM f <;> rfl

theorem readList_append_comma {front : Text} {first : List Selector}
    (read : Selector.readList front = .ok first) (back : Text) :
    Selector.readList (front ++ ',' :: back) = (Selector.readList back).map (first ++ ·) := by
  rw [Selector.readList] at read
  split at read
  · cases read
  · rename_i groups pieces
    rw [Selector.readList, readPieces_append_comma pieces back, Selector.readList]
    cases readPieces back with
    | error fault => rfl
    | ok others => exact mapM_append_of_ok read others

/-- A list that was read, a comma and any text are read as the list and then what the text is read
as on its own; and if the text is refused, so is the whole, for the same fault. -/
theorem parseList_append_comma (front back : Text) (first : List Selector)
    (read : Selector.parseList front = .ok first) :
    (∀ selectors, Selector.parseList (front ++ ',' :: back) = .ok selectors ↔
      ∃ others, Selector.parseList back = .ok others ∧ selectors = first ++ others) ∧
    ∀ error, Selector.parseList back = .error error →
      Selector.parseList (front ++ ',' :: back) = .error ⟨error.fault, front ++ ',' :: back⟩ := by
  have list : Selector.readList front = .ok first := by
    rw [Selector.parseList] at read
    cases outcome : Selector.readList front with
    | error fault =>
        rw [outcome] at read
        cases read
    | ok selectors =>
        rw [outcome] at read
        cases read
        rfl
  rw [Selector.parseList, Selector.parseList, readList_append_comma list back]
  cases Selector.readList back with
  | error fault =>
      constructor
      · intro selectors
        simp [Except.mapError, Except.map]
      · intro error failed
        cases failed
        rfl
  | ok others =>
      constructor
      · intro selectors
        simp [Except.mapError, Except.map, eq_comm]
      · intro error failed
        cases failed

theorem parseList_append_comma_empty :
    Selector.parseList ".a/*,*/ > ,[t=\"x,y\"]".toList =
        .ok [⟨[⟨.className, "a", ".a"⟩, ⟨.comment, ",", "/*,*/"⟩,
          ⟨.combinator .child, ">", " > "⟩]⟩, ⟨[⟨.attribute, "t", "[t=\"x,y\"]"⟩]⟩] ∧
      Selector.parseList (".a/*,*/ > ,[t=\"x,y\"]".toList ++ ',' :: "b, ,..".toList) =
        .error ⟨.expectedName '.', ".a/*,*/ > ,[t=\"x,y\"],b, ,.."⟩ := by
  have read : Selector.parseList ".a/*,*/ > ,[t=\"x,y\"]".toList =
      .ok [⟨[⟨.className, "a", ".a"⟩, ⟨.comment, ",", "/*,*/"⟩,
        ⟨.combinator .child, ">", " > "⟩]⟩, ⟨[⟨.attribute, "t", "[t=\"x,y\"]"⟩]⟩] := by
    decide +kernel
  have failed : Selector.parseList "b, ,..".toList = .error ⟨.expectedName '.', "b, ,.."⟩ := by
    decide +kernel
  exact ⟨read, (parseList_append_comma _ _ _ read).2 _ failed⟩

end ClassLint
