import ClassLint.Proofs.Rereading

/-! Texts that go on after a space. What is read before a space stays as it is, apart from blanks
that now have more blanks behind them; and what comes after the space is read as on its own. -/

namespace ClassLint

/-- The pieces of one selector before those of another. Blanks that meet are one piece. -/
inductive Merges : List Piece → List Piece → List Piece → Prop where
  | apart (following : List Piece) : Merges [] following following
  | blanks (before behind : Text) (following : List Piece) :
      Merges [.space before] (.space behind :: following) (.space (before ++ behind) :: following)
  | piece {pieces following merged : List Piece} (piece : Piece)
      (merges : Merges pieces following merged) :
      Merges (piece :: pieces) following (piece :: merged)

/-- The last of the groups goes on with the first of the groups that follow, if these are read. -/
inductive GoesOn : List (List Piece) → Except SelectorFault (List (List Piece)) →
    Except SelectorFault (List (List Piece)) → Prop where
  | fault (groups : List (List Piece)) (fault : SelectorFault) :
      GoesOn groups (.error fault) (.error fault)
  | groups {last first merged : List Piece} (front others : List (List Piece))
      (merges : Merges last first merged) :
      GoesOn (front ++ [last]) (.ok (first :: others)) (.ok (front ++ merged :: others))

namespace GoesOn

variable {groups : List (List Piece)} {following whole : Except SelectorFault (List (List Piece))}

theorem comma (goesOn : GoesOn groups following whole) :
    GoesOn ([] :: groups) following (whole.map ([] :: ·)) := by
  cases goesOn with
  | fault groups fault => exact .fault _ fault
  | groups front others merges => exact .groups ([] :: front) others merges

theorem consPiece (piece : Piece) (goesOn : GoesOn groups following whole) :
    GoesOn (consPiece piece groups) following (whole.map (ClassLint.consPiece piece)) := by
  cases goesOn with
  | fault groups fault => exact .fault _ fault
  | groups front others merges =>
      cases front with
      | nil => exact .groups [] others (merges.piece piece)
      | cons group front => exact .groups ((piece :: group) :: front) others merges

theorem nothing (t : Text) : GoesOn [[]] (readPieces t) (readPieces t) := by
  cases read : readPieces t with
  | error fault => exact .fault _ fault
  | ok groups =>
      obtain ⟨first, others, rfl, -⟩ := exists_readsTo read
      exact .groups [] others (.apart first)

end GoesOn

theorem readPieces_of_readsTo_single {t final : Text} {piece : Piece}
    (read : ReadsTo t [piece] final) :
    readPieces t = (readPieces final).map (consPiece piece) := by
  cases read with
  | piece inside read more =>
      cases more
      exact readPieces_of_piece inside read

theorem readPieces_of_readsTo_fault {t final : Text} {pieces : List Piece} {fault : SelectorFault}
    (read : ReadsTo t pieces final) (failed : readPieces final = .error fault) :
    readPieces t = .error fault := by
  induction read with
  | done t => exact failed
  | piece inside read more ih =>
      rw [readPieces_of_piece inside read, ih failed]
      rfl

theorem visible_dropWhile (t : Text) : ∀ c ∈ (t.dropWhile isBlank).head?, isBlank c = false := by
  intro c first
  have stopped := List.head?_dropWhile_not isBlank t
  rw [first] at stopped
  simpa using stopped

theorem readsTo_blanks_append {c : Char} (blank : isBlank c = true) {rest more : Text}
    (visible : ∀ d ∈ (rest.dropWhile isBlank ++ more).head?, isBlank d = false) :
    ReadsTo (c :: rest ++ more) [.space (c :: rest.takeWhile isBlank)]
      (rest.dropWhile isBlank ++ more) := by
  have blanks : AllBlank (c :: rest.takeWhile isBlank) :=
    List.forall_mem_cons.mpr ⟨blank, fun _ => List.mem_takeWhile_imp⟩
  have read := reads_blanks (List.cons_ne_nil _ _) blanks visible
  rwa [List.cons_append, ← List.append_assoc, List.takeWhile_append_dropWhile] at read

theorem readsTo_visible_append {c : Char} {rest after more : Text} {piece : Piece}
    (inside : c ≠ ',') (visible : isBlank c = false)
    (read : readPiece c rest = .ok (piece, after)) (stop : ∀ d ∈ more.head?, d = ',' ∨ d = ' ') :
    ReadsTo (c :: rest ++ more) [piece] (after ++ more) := by
  have whole := readPiece_append read
  have token := read
  rw [readPiece, if_neg (by simp [visible])] at token
  rw [← whole, List.append_assoc]
  split at token
  · rename_i combinator found
    cases token
    have explicit : combinator ≠ .descendant := by
      rintro rfl
      rw [← Combinator.mark_of_ofMark? found] at visible
      cases visible
    exact reads_combinator explicit _
  · obtain ⟨token, rfl, -⟩ := exists_token_of_readToken token
    exact (readBefore_of_readPiece inside read).exchange (notLonger_append_stop stop after)

theorem goesOn_blanks {blanks : Text} (blank : AllBlank blanks) (more : Text) :
    GoesOn [[.space blanks]] (readPieces (' ' :: more)) (readPieces (blanks ++ ' ' :: more)) := by
  have spaces : AllBlank (' ' :: more.takeWhile isBlank) :=
    List.forall_mem_cons.mpr ⟨by decide, fun _ => List.mem_takeWhile_imp⟩
  have visible := visible_dropWhile more
  have whole : ' ' :: more.takeWhile isBlank ++ more.dropWhile isBlank = ' ' :: more := by
    rw [List.cons_append, List.takeWhile_append_dropWhile]
  have alone := reads_blanks (List.cons_ne_nil _ _) spaces visible
  have together := reads_blanks (by simp) (allBlank_append.mpr ⟨blank, spaces⟩) visible
  rw [List.append_assoc, whole] at together
  rw [whole] at alone
  rw [readPieces_of_readsTo_single alone, readPieces_of_readsTo_single together]
  cases read : readPieces (more.dropWhile isBlank) with
  | error fault => exact .fault _ fault
  | ok groups =>
      obtain ⟨first, others, rfl, -⟩ := exists_readsTo read
      exact .groups [] others (.blanks blanks _ first)

theorem goesOn_readPieces {t : Text} {groups : List (List Piece)}
    (read : readPieces t = .ok groups) (more : Text) :
    GoesOn groups (readPieces (' ' :: more)) (readPieces (t ++ ' ' :: more)) := by
  fun_induction readPieces t generalizing groups
  case case1 =>
    cases read
    exact .nothing _
  case case2 rest ih =>
    obtain ⟨others, following, rfl⟩ := exists_of_map_eq_ok read
    have divided : readPieces (',' :: rest ++ ' ' :: more) =
        (readPieces (rest ++ ' ' :: more)).map ([] :: ·) := by
      rw [List.cons_append, readPieces, if_pos rfl]
    rw [divided]
    exact (ih following).comma
  case case3 => cases read
  case case4 c rest inside piece after found _ ih =>
    obtain ⟨others, following, rfl⟩ := exists_of_map_eq_ok read
    have further (reads : ReadsTo (c :: rest ++ ' ' :: more) [piece] (after ++ ' ' :: more)) :
        GoesOn (consPiece piece others) (readPieces (' ' :: more))
          (readPieces (c :: rest ++ ' ' :: more)) := by
      rw [readPieces_of_readsTo_single reads]
      exact (ih following).consPiece piece
    cases blank : isBlank c with
    | false => exact further (readsTo_visible_append inside blank found (by simp))
    | true =>
        -- Blanks are read again from the text as a whole if nothing visible follows them.
        have spaces := found
        rw [readPiece, if_pos blank] at spaces
        injection spaces with same
        injection same with space left
        by_cases ended : rest.dropWhile isBlank = []
        · have all := List.takeWhile_append_dropWhile (p := isBlank) (l := rest)
          rw [ended, List.append_nil] at all
          have blanks : AllBlank (c :: rest) := by
            rw [← all]
            exact List.forall_mem_cons.mpr ⟨blank, fun _ => List.mem_takeWhile_imp⟩
          rw [← left, ended, readPieces] at following
          cases following
          rw [← space, all]
          exact goesOn_blanks blanks more
        · apply further
          rw [← space, ← left]
          apply readsTo_blanks_append blank
          rw [List.head?_append_of_ne_nil _ ended]
          exact visible_dropWhile rest

/-! ### Joining -/

/-- The pieces join to at least one token wherever they stand. -/
def JoinAnywhere (pieces : List Piece) : Prop :=
  ∀ after gap, ∃ tokens, joinPieces after gap pieces = .ok tokens ∧ tokens ≠ []

theorem addBlanks_addBlanks (before behind : Text) (gap : Option Gap) :
    Gap.addBlanks behind (some (Gap.addBlanks before gap)) =
      Gap.addBlanks (before ++ behind) gap := by
  cases gap with
  | none => rfl
  | some gap => exact congrArg (Gap.mk gap.combinator?) (List.append_assoc _ _ _)

theorem exists_joinPieces_of_merges {pieces following merged : List Piece} {after : Bool}
    {gap : Option Gap} {tokens : List Token} (merges : Merges pieces following merged)
    (joins : Joins after gap pieces tokens) (anywhere : JoinAnywhere following) :
    ∃ tokens, joinPieces after gap merged = .ok tokens ∧ tokens ≠ [] := by
  induction merges generalizing after gap tokens with
  | apart following => exact anywhere after gap
  | blanks before behind following =>
      have joined := anywhere after (some (Gap.addBlanks before gap))
      rw [joinPieces, addBlanks_addBlanks] at joined
      exact joined
  | piece piece merges ih =>
      cases joins with
      | space joined => exact ih joined anywhere
      | combinator added joined =>
          rw [joinPieces, added]
          exact ih joined anywhere
      | comment comment joined =>
          obtain ⟨others, found, -⟩ := ih joined anywhere
          rw [joinPieces, if_pos comment, found]
          exact ⟨_, rfl, List.cons_ne_nil _ _⟩
      | token named joined =>
          obtain ⟨others, found, -⟩ := ih joined anywhere
          rw [joinPieces, if_neg (by simp [named]), found]
          exact ⟨_, rfl, by simp⟩

theorem exists_ofPieces {pieces : List Piece}
    (joined : ∃ tokens, joinPieces false none pieces = .ok tokens ∧ tokens ≠ []) :
    ∃ selector, Selector.ofPieces pieces = .ok selector := by
  obtain ⟨tokens, joined, nonempty⟩ := joined
  exact ⟨⟨tokens⟩, ofPieces_eq_ok_iff.mpr ⟨joined, nonempty⟩⟩

theorem JoinAnywhere.exists_ofPieces {pieces : List Piece} (anywhere : JoinAnywhere pieces) :
    ∃ selector, Selector.ofPieces pieces = .ok selector :=
  ClassLint.exists_ofPieces (anywhere false none)

theorem exists_forall₂_iff {α β : Type} {related : α → β → Prop} (items : List α) :
    (∃ others, List.Forall₂ related items others) ↔
      ∀ item ∈ items, ∃ other, related item other := by
  induction items with
  | nil => simp
  | cons item rest ih =>
      rw [List.forall_mem_cons, ← ih]
      constructor
      · rintro ⟨_, both⟩
        obtain ⟨other, others, first, more, rfl⟩ := List.forall₂_cons_left_iff.mp both
        exact ⟨⟨other, first⟩, others, more⟩
      · rintro ⟨⟨other, first⟩, others, more⟩
        exact ⟨other :: others, .cons first more⟩

theorem exists_parseList_iff (t : Text) :
    (∃ selectors, Selector.parseList t = .ok selectors) ↔
      ∃ groups, readPieces t = .ok groups ∧
        ∀ group ∈ groups, ∃ selector, Selector.ofPieces group = .ok selector := by
  simp only [parseList_eq_ok_iff, ← exists_forall₂_iff]
  constructor
  · rintro ⟨selectors, groups, pieces, joined⟩
    exact ⟨groups, pieces, selectors, joined⟩
  · rintro ⟨groups, pieces, selectors, joined⟩
    exact ⟨selectors, groups, pieces, joined⟩

theorem parseList_of_fault {t : Text} {fault : SelectorFault}
    (failed : readPieces t = .error fault) : Selector.parseList t = .error ⟨fault, t⟩ := by
  rw [Selector.parseList, Selector.readList, failed]
  rfl

/-- A text that can be read may go on after a space with selectors that join anywhere. -/
theorem exists_parseList_append {t more : Text} {groups : List (List Piece)}
    (read : ∃ selectors, Selector.parseList t = .ok selectors)
    (following : readPieces (' ' :: more) = .ok groups)
    (anywhere : ∀ group ∈ groups, JoinAnywhere group) :
    ∃ selectors, Selector.parseList (t ++ ' ' :: more) = .ok selectors := by
  obtain ⟨before, pieces, each⟩ := (exists_parseList_iff t).mp read
  have goesOn := goesOn_readPieces pieces more
  rw [following] at goesOn
  generalize whole : readPieces (t ++ ' ' :: more) = outcome at goesOn
  cases goesOn with
  | @groups last first merged front others merges =>
      refine (exists_parseList_iff _).mpr ⟨_, whole, ?_⟩
      intro group member
      rcases List.mem_append.mp member with early | late
      · exact each group (List.mem_append_left _ early)
      · rcases List.mem_cons.mp late with rfl | later
        · obtain ⟨selector, joined⟩ := each last (by simp)
          exact exists_ofPieces (exists_joinPieces_of_merges merges
            (ofPieces_eq_ok_iff_joins.mp joined).1 (anywhere first List.mem_cons_self))
        · exact (anywhere group (List.mem_cons_of_mem first later)).exists_ofPieces

theorem parseList_append_of_fault {t more : Text} {fault : SelectorFault}
    (read : ∃ selectors, Selector.parseList t = .ok selectors)
    (failed : readPieces (' ' :: more) = .error fault) :
    Selector.parseList (t ++ ' ' :: more) = .error ⟨fault, t ++ ' ' :: more⟩ := by
  obtain ⟨groups, pieces, -⟩ := (exists_parseList_iff t).mp read
  have goesOn := goesOn_readPieces pieces more
  rw [failed] at goesOn
  generalize whole : readPieces (t ++ ' ' :: more) = outcome at goesOn
  cases goesOn with
  | fault groups fault => exact parseList_of_fault whole

end ClassLint
