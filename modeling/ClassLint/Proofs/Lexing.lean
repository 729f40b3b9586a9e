import ClassLint.Selector.Parse
import ClassLint.Proofs.Trimming
import Mathlib.Data.List.Forall2

/-! Reading a selector list piece by piece. A run of pieces is read with the text after it in sight,
so runs compose; and what a run leaves over can be cut off without changing what it reads. -/

namespace ClassLint

/-- What a token says, apart from how it is spelled. -/
def Token.meaning (token : Token) : Kind × Text := (token.kind, token.value)

def Combinator.meaning (combinator : Combinator) : Kind × Text :=
  (.combinator combinator, [combinator.mark])

def Selector.meaning (selector : Selector) : List (Kind × Text) :=
  selector.tokens.map Token.meaning

def Selector.comments (selector : Selector) : List Token := selector.tokens.filter Token.isComment

def Selector.withoutComments (selector : Selector) : Selector :=
  ⟨selector.tokens.filter fun token => !token.isComment⟩

def Piece.sources (pieces : List Piece) : Text := pieces.flatMap Piece.source

/-- Pieces read one after the other, up to no later than the next comma, and the text they leave. -/
inductive ReadsTo : Text → List Piece → Text → Prop where
  | done (t : Text) : ReadsTo t [] t
  | piece {c : Char} {rest after final : Text} {piece : Piece} {pieces : List Piece}
      (inside : c ≠ ',') (read : readPiece c rest = .ok (piece, after))
      (more : ReadsTo after pieces final) : ReadsTo (c :: rest) (piece :: pieces) final

namespace ReadsTo

variable {t middle final : Text} {pieces others : List Piece}

theorem append (first : ReadsTo t pieces middle) (second : ReadsTo middle others final) :
    ReadsTo t (pieces ++ others) final := by
  induction first with
  | done t => exact second
  | piece inside read more ih => exact .piece inside read (ih second)

theorem sources_append (read : ReadsTo t pieces final) : Piece.sources pieces ++ final = t := by
  induction read with
  | done t => rfl
  | piece inside read more ih =>
      rw [Piece.sources, List.flatMap_cons, List.append_assoc, ← Piece.sources, ih,
        readPiece_append read]

theorem exists_of_append (read : ReadsTo t (pieces ++ others) final) :
    ∃ middle, ReadsTo t pieces middle ∧ ReadsTo middle others final := by
  induction pieces generalizing t with
  | nil => exact ⟨t, .done t, read⟩
  | cons piece pieces ih =>
      cases read with
      | piece inside read more =>
          obtain ⟨middle, first, second⟩ := ih more
          exact ⟨middle, .piece inside read first, second⟩

end ReadsTo

theorem readPieces_of_piece {c : Char} {rest after : Text} {piece : Piece} (inside : c ≠ ',')
    (read : readPiece c rest = .ok (piece, after)) :
    readPieces (c :: rest) = (readPieces after).map (consPiece piece) := by
  rw [readPieces, if_neg inside]
  split
  · rename_i fault failed
    rw [failed] at read
    cases read
  · rename_i other left found
    rw [found] at read
    cases read
    rfl

theorem readPieces_of_readsTo {t final : Text} {pieces group : List Piece}
    {groups : List (List Piece)} (read : ReadsTo t pieces final)
    (rest : readPieces final = .ok (group :: groups)) :
    readPieces t = .ok ((pieces ++ group) :: groups) := by
  induction read with
  | done t => exact rest
  | piece inside read more ih =>
      rw [readPieces_of_piece inside read, ih rest]
      rfl

theorem readPieces_of_readsTo_nil {t : Text} {pieces : List Piece} (read : ReadsTo t pieces []) :
    readPieces t = .ok [pieces] := by
  have ended : readPieces [] = .ok [[]] := by rw [readPieces]
  simpa using readPieces_of_readsTo read ended

theorem readPieces_of_readsTo_comma {t rest : Text} {pieces : List Piece}
    {groups : List (List Piece)} (read : ReadsTo t pieces (',' :: rest))
    (more : readPieces rest = .ok groups) : readPieces t = .ok (pieces :: groups) := by
  have divided : readPieces (',' :: rest) = .ok ([] :: groups) := by
    rw [readPieces, if_pos rfl, more]
    rfl
  simpa using readPieces_of_readsTo read divided

theorem exists_readsTo {t : Text} {groups : List (List Piece)} (read : readPieces t = .ok groups) :
    ∃ group others, groups = group :: others ∧
      (ReadsTo t group [] ∧ others = [] ∨
        ∃ rest, ReadsTo t group (',' :: rest) ∧ readPieces rest = .ok others) := by
  fun_induction readPieces t generalizing groups
  case case1 =>
    cases read
    exact ⟨[], [], rfl, .inl ⟨.done [], rfl⟩⟩
  case case2 rest ih =>
    obtain ⟨others, more, rfl⟩ := exists_of_map_eq_ok read
    exact ⟨[], others, rfl, .inr ⟨rest, .done _, more⟩⟩
  case case3 => cases read
  case case4 c rest inside piece after found _ ih =>
    obtain ⟨groups, more, rfl⟩ := exists_of_map_eq_ok read
    obtain ⟨group, others, rfl, ended | ⟨rest, divided, following⟩⟩ := ih more
    · exact ⟨piece :: group, others, rfl, .inl ⟨.piece inside found ended.1, ended.2⟩⟩
    · exact ⟨piece :: group, others, rfl, .inr ⟨rest, .piece inside found divided, following⟩⟩

theorem mapM_eq_ok_iff {ε α β : Type} {f : α → Except ε β} {items : List α} {results : List β} :
    items.mapM f = .ok results ↔
      List.Forall₂ (fun item result => f item = .ok result) items results := by
  induction items generalizing results with
  | nil =>
      rw [List.mapM_nil, List.forall₂_nil_left_iff]
      constructor
      · rintro ⟨⟩
        rfl
      · rintro rfl
        rfl
  | cons item items ih =>
      rw [List.mapM_cons, List.forall₂_cons_left_iff]
      constructor
      · intro mapped
        cases first : f item with
        | error error =>
            rw [first] at mapped
            cases mapped
        | ok result =>
            cases others : items.mapM f with
            | error error =>
                rw [first, others] at mapped
                cases mapped
            | ok more =>
                rw [first, others] at mapped
                cases mapped
                exact ⟨result, more, rfl, ih.mp others, rfl⟩
      · rintro ⟨result, more, first, others, rfl⟩
        rw [first, ih.mpr others]
        rfl

/-- A list is read when its pieces are and when those of every selector join. -/
theorem parseList_eq_ok_iff {t : Text} {selectors : List Selector} :
    Selector.parseList t = .ok selectors ↔
      ∃ groups, readPieces t = .ok groups ∧
        List.Forall₂ (fun group selector => Selector.ofPieces group = .ok selector) groups
          selectors := by
  unfold Selector.parseList Selector.readList
  cases readPieces t with
  | error fault => simp [Except.mapError]
  | ok groups =>
      simp only [Except.ok.injEq, exists_eq_left', ← mapM_eq_ok_iff]
      cases groups.mapM Selector.ofPieces <;> simp [Except.mapError]

theorem ofPieces_eq_ok_iff {pieces : List Piece} {selector : Selector} :
    Selector.ofPieces pieces = .ok selector ↔
      joinPieces false none pieces = .ok selector.tokens ∧ selector.tokens ≠ [] := by
  obtain ⟨tokens⟩ := selector
  unfold Selector.ofPieces
  cases joinPieces false none pieces with
  | error fault => simp
  | ok found => cases found <;> cases tokens <;> simp

theorem reads_blanks {blanks rest : Text} (nonempty : blanks ≠ []) (blank : AllBlank blanks)
    (ends : ∀ c ∈ rest.head?, isBlank c = false) :
    ReadsTo (blanks ++ rest) [.space blanks] rest := by
  obtain ⟨c, more, rfl⟩ := List.exists_cons_of_ne_nil nonempty
  have first : isBlank c = true := blank c List.mem_cons_self
  have others : AllBlank more := fun d member => blank d (List.mem_cons_of_mem c member)
  have inside : c ≠ ',' := by
    rintro rfl
    exact absurd first (by decide)
  have read : readPiece c (more ++ rest) = .ok (.space (c :: more), rest) := by
    rw [readPiece, if_pos first, takeWhile_of_blanks others ends, ← trimStart,
      trimStart_of_blanks others ends]
  exact .piece inside read (.done rest)

theorem reads_combinator {combinator : Combinator} (explicit : combinator ≠ .descendant)
    (rest : Text) : ReadsTo (combinator.mark :: rest) [.combinator combinator] rest := by
  cases combinator with
  | descendant => exact absurd rfl explicit
  | child => exact .piece (by decide) rfl (.done rest)
  | nextSibling => exact .piece (by decide) rfl (.done rest)
  | subsequentSibling => exact .piece (by decide) rfl (.done rest)

/-! ### Names -/

theorem startsName_cons_iff (c : Char) (t : Text) :
    StartsName (c :: t) ↔ c = '#' ∧ t.head? = some '{' ∨ isNameCharacter c = true ∨ c = '\\' := by
  unfold StartsName
  split
  · rename_i same
    cases same
    simp
  · rename_i plain same
    cases same
    have open_ : ¬(c = '#' ∧ t.head? = some '{') := by
      rintro ⟨rfl, first⟩
      obtain ⟨rest, rfl⟩ := List.head?_eq_some_iff.mp first
      exact plain rest rfl rfl
    simp [open_]
  · rename_i same
    cases same

theorem startsName_append {s : Text} (starts : StartsName s) (t : Text) : StartsName (s ++ t) := by
  cases s with
  | nil => cases starts
  | cons c s =>
      rw [List.cons_append, startsName_cons_iff]
      rw [startsName_cons_iff] at starts
      refine starts.imp_left fun ⟨mark, first⟩ => ⟨mark, ?_⟩
      rw [List.head?_append, first]
      rfl

theorem takeName_escape (c : Char) (rest : Text) :
    takeName ('\\' :: c :: rest) = (takeName rest).map (Name.push [c] ['\\', c]) := by
  rw [takeName]

theorem takeName_of_character {c : Char} (character : isNameCharacter c = true) (rest : Text) :
    takeName (c :: rest) = (takeName rest).map (Name.push [c] [c]) := by
  have unescaped : c ≠ '\\' := by
    rintro rfl
    exact absurd character (by decide)
  have unmarked : c ≠ '#' := by
    rintro rfl
    exact absurd character (by decide)
  rw [takeName, if_pos character]
  all_goals grind

theorem takeName_of_group {rest : Text} {taken : Taken}
    (read : takeGroup .braces none 0 rest = .ok taken) :
    takeName ('#' :: '{' :: rest) =
      (takeName taken.2).map (Name.push ('#' :: '{' :: taken.1) ('#' :: '{' :: taken.1)) := by
  rw [takeName]
  split
  · rename_i failed
    rw [failed] at read
    cases read
  · rename_i found
    rw [found] at read
    cases read
    rfl

theorem takeName_of_stop {t : Text} (stops : ¬StartsName t) : takeName t = .ok ⟨[], [], t⟩ := by
  cases t with
  | nil => rw [takeName]
  | cons c rest =>
      rw [startsName_cons_iff, not_or, not_or] at stops
      obtain ⟨plain, other, unescaped⟩ := stops
      rw [takeName, if_neg other]
      all_goals grind

/-! ### What a reader leaves can be replaced -/

theorem takeComment_replace {t : Text} {taken : Taken} (read : takeComment t = some taken)
    (other : Text) : takeComment (taken.1 ++ '*' :: '/' :: other) = some (taken.1, other) := by
  fun_induction takeComment t generalizing taken
  case case1 => cases read
  case case2 =>
    cases read
    rfl
  case case3 c rest open_ ih =>
    obtain ⟨inner, tail, rfl⟩ := Option.map_eq_some_iff.mp read
    have same := takeComment_append tail
    -- The first character still does not close the comment: the one after it is the same.
    have next : ∀ after, c = '*' → inner.1 ++ '*' :: '/' :: other ≠ '/' :: after := by
      rintro after rfl closed
      cases taken : inner.1 with
      | nil => simp [taken] at closed
      | cons d body =>
          simp only [taken, List.cons_append, List.cons.injEq] at closed same
          exact open_ _ rfl (closed.1 ▸ same.symm)
    simp only [Taken.push, List.cons_append]
    rw [takeComment, ih tail]
    · rfl
    · exact next

theorem takeGroup_ne_nil {bracket : Bracket} {quote : Option Char} {depth : Nat} {t : Text}
    {taken : Taken} (read : takeGroup bracket quote depth t = .ok taken) : t ≠ [] := by
  rintro rfl
  cases quote <;> cases read

theorem getLast?_of_takeGroup {bracket : Bracket} {quote : Option Char} {depth : Nat} {t : Text}
    {taken : Taken} (read : takeGroup bracket quote depth t = .ok taken) :
    taken.1.getLast? = some bracket.closing := by
  fun_induction takeGroup bracket quote depth t generalizing taken
  case case1 => cases read
  case case2 => cases read
  case case7 =>
    cases read
    simp_all
  all_goals
    rename_i ih
    obtain ⟨inner, tail, rfl⟩ := exists_of_map_eq_ok read
    have last := ih tail
    simp [Taken.push, List.getLast?_cons, last]

theorem takeGroup_cons {bracket : Bracket} {depth : Nat} {c : Char} (unescaped : c ≠ '\\')
    (rest : Text) :
    takeGroup bracket none depth (c :: rest) =
      if isQuote c then (takeGroup bracket (some c) depth rest).map (Taken.push c)
      else if c = bracket.opening then
        (takeGroup bracket none (depth + 1) rest).map (Taken.push c)
      else if c = bracket.closing then
        match depth with
        | 0 => .ok ([c], rest)
        | depth + 1 => (takeGroup bracket none depth rest).map (Taken.push c)
      else (takeGroup bracket none depth rest).map (Taken.push c) := by
  cases depth <;> rw [takeGroup.eq_def] <;> split <;> simp_all

theorem unescaped_of_takeGroup {bracket : Bracket} {quote : Option Char} {depth : Nat} {c : Char}
    {rest : Text} {taken : Taken} (alone : ∀ d more, c = '\\' → rest = d :: more → False)
    (read : takeGroup bracket quote depth rest = .ok taken) : c ≠ '\\' := by
  obtain ⟨d, more, rfl⟩ := List.exists_cons_of_ne_nil (takeGroup_ne_nil read)
  exact fun same => alone d more same rfl

theorem takeGroup_replace {bracket : Bracket} {quote : Option Char} {depth : Nat} {t : Text}
    {taken : Taken} (closing : bracket.closing ≠ '\\')
    (read : takeGroup bracket quote depth t = .ok taken) (other : Text) :
    takeGroup bracket quote depth (taken.1 ++ other) = .ok (taken.1, other) := by
  fun_induction takeGroup bracket quote depth t generalizing taken
  case case1 => cases read
  case case2 => cases read
  case case3 ih =>
    obtain ⟨inner, tail, rfl⟩ := exists_of_map_eq_ok read
    simp [Taken.push, takeGroup, ih tail, Except.map]
  case case4 alone ih =>
    obtain ⟨inner, tail, rfl⟩ := exists_of_map_eq_ok read
    simp [Taken.push, takeGroup, ih tail, Except.map, unescaped_of_takeGroup alone tail]
  case case5 alone quoted ih =>
    obtain ⟨inner, tail, rfl⟩ := exists_of_map_eq_ok read
    simp [Taken.push, takeGroup_cons (unescaped_of_takeGroup alone tail), ih tail, Except.map,
      quoted]
  case case6 alone unquoted ih =>
    obtain ⟨inner, tail, rfl⟩ := exists_of_map_eq_ok read
    simp [Taken.push, takeGroup_cons (unescaped_of_takeGroup alone tail), ih tail, Except.map,
      unquoted]
  case case7 unquoted distinct =>
    cases read
    simp [takeGroup_cons closing, unquoted, distinct]
  case case8 unquoted distinct ih =>
    obtain ⟨inner, tail, rfl⟩ := exists_of_map_eq_ok read
    simp [Taken.push, takeGroup_cons closing, ih tail, Except.map, unquoted, distinct]
  case case9 alone unquoted notOpening notClosing ih =>
    obtain ⟨inner, tail, rfl⟩ := exists_of_map_eq_ok read
    simp [Taken.push, takeGroup_cons (unescaped_of_takeGroup alone tail), ih tail, Except.map,
      unquoted, notOpening, notClosing]

theorem not_startsName_rest {t : Text} {name : Name} (read : takeName t = .ok name) :
    ¬StartsName name.rest := by
  fun_induction takeName t generalizing name
  case case2 => cases read
  case case3 => cases read
  case case6 c rest unescaped single plain other =>
    cases read
    rw [startsName_cons_iff]
    rintro (⟨rfl, first⟩ | character | rfl)
    · obtain ⟨body, rfl⟩ := List.head?_eq_some_iff.mp first
      exact plain body rfl rfl
    · exact other character
    · cases rest with
      | nil => exact single rfl rfl
      | cons d rest => exact unescaped d rest rfl rfl
  case case7 =>
    cases read
    exact id
  all_goals
    rename_i ih
    obtain ⟨inner, tail, rfl⟩ := exists_of_map_eq_ok read
    simpa [Name.push] using ih tail

theorem takeName_replace {t : Text} {name : Name} (read : takeName t = .ok name) {other : Text}
    (stops : ¬StartsName other) :
    takeName (name.raw ++ other) = .ok ⟨name.value, name.raw, other⟩ := by
  fun_induction takeName t generalizing name
  case case1 c rest ih =>
    obtain ⟨inner, tail, rfl⟩ := exists_of_map_eq_ok read
    simp [Name.push, takeName_escape, ih tail, Except.map]
  case case2 => cases read
  case case3 => cases read
  case case4 rest taken found _ group ih =>
    obtain ⟨inner, tail, rfl⟩ := exists_of_map_eq_ok read
    have again := takeGroup_replace (by decide) found (inner.raw ++ other)
    simp only [Name.push, group, List.cons_append, List.append_assoc]
    rw [takeName_of_group again, ih tail]
    simp [Name.push, Except.map]
  case case5 c rest _ _ _ character ih =>
    obtain ⟨inner, tail, rfl⟩ := exists_of_map_eq_ok read
    simp [Name.push, takeName_of_character character, ih tail, Except.map]
  case case6 =>
    cases read
    exact takeName_of_stop stops
  case case7 =>
    cases read
    exact takeName_of_stop stops

/-! ### What a reader leaves can be cut off -/

theorem takeName_cut {s u v : Text} {name : Name} (read : takeName (s ++ v) = .ok name)
    (left : name.rest = u ++ v) : takeName s = .ok ⟨name.value, name.raw, u⟩ := by
  have same := takeName_append read
  rw [left, ← List.append_assoc] at same
  rw [← List.append_cancel_right same]
  apply takeName_replace read
  intro starts
  exact not_startsName_rest read (left ▸ startsName_append starts v)

theorem takeGroup_cut {bracket : Bracket} {s u v : Text} {taken : Taken}
    (closing : bracket.closing ≠ '\\') (read : takeGroup bracket none 0 (s ++ v) = .ok taken)
    (left : taken.2 = u ++ v) : takeGroup bracket none 0 s = .ok (taken.1, u) := by
  have same := takeGroup_append read
  rw [left, ← List.append_assoc] at same
  rw [← List.append_cancel_right same]
  exact takeGroup_replace closing read u

theorem takeComment_cut {s u v : Text} {taken : Taken} (read : takeComment (s ++ v) = some taken)
    (left : taken.2 = u ++ v) : takeComment s = some (taken.1, u) := by
  have same := takeComment_append read
  have again := takeComment_replace read u
  rw [left] at same
  have whole : (taken.1 ++ '*' :: '/' :: u) ++ v = s ++ v := by simpa using same
  rwa [List.append_cancel_right whole] at again

section Cut

variable {s u v : Text} {piece : Piece}

theorem readMarked_cut {kind : Kind} {mark : Char}
    (read : readMarked kind mark (s ++ v) = .ok (piece, u ++ v)) :
    readMarked kind mark s = .ok (piece, u) := by
  unfold readMarked at read ⊢
  grind [→ takeName_cut]

theorem readPlaceholder_cut (read : readPlaceholder (s ++ v) = .ok (piece, u ++ v)) :
    readPlaceholder s = .ok (piece, u) := by
  unfold readPlaceholder at read ⊢
  grind [→ takeName_cut]

theorem readNesting_cut (read : readNesting (s ++ v) = .ok (piece, u ++ v)) :
    readNesting s = .ok (piece, u) := by
  unfold readNesting at read ⊢
  grind [→ takeName_cut]

theorem readTag_cut (read : readTag (s ++ v) = .ok (piece, u ++ v)) :
    readTag s = .ok (piece, u) := by
  unfold readTag at read ⊢
  grind [→ takeName_cut]

theorem readAttribute_cut (read : readAttribute (s ++ v) = .ok (piece, u ++ v)) :
    readAttribute s = .ok (piece, u) := by
  have closing : Bracket.square.closing ≠ '\\' := by decide
  unfold readAttribute at read ⊢
  grind [→ takeGroup_cut]

theorem readPseudo_cut {colons : Text} (read : readPseudo colons (s ++ v) = .ok (piece, u ++ v)) :
    readPseudo colons s = .ok (piece, u) := by
  unfold readPseudo at read ⊢
  split at read
  · cases read
  · rename_i name found
    split at read
    · cases read
    · rename_i named
      simp only at read
      split at read
      · rename_i arguments opened
        split at read
        · cases read
        · rename_i group enclosed
          injection read with same
          injection same with token left
          have whole := takeGroup_append enclosed
          rw [left, ← List.append_assoc] at whole
          rw [← whole] at opened enclosed
          rw [takeName_cut found (u := '(' :: (group.1 ++ u)) opened]
          simp [named, takeGroup_cut (by decide) enclosed left, ← token]
      · rename_i unopened
        injection read with same
        injection same with token left
        rw [takeName_cut found left]
        have closed : ∀ arguments, u ≠ '(' :: arguments := by
          rintro arguments rfl
          exact unopened _ left
        simp only [named]
        grind

theorem readComment_cut (read : readComment (s ++ v) = .ok (piece, u ++ v)) :
    readComment s = .ok (piece, u) := by
  cases s with
  | nil =>
      -- The comment was read from what is to be cut off, so it cannot all be left over.
      have same := congrArg List.length (readComment_append read)
      unfold readComment at read
      grind [Piece.source]
  | cons c s =>
      unfold readComment at read ⊢
      grind [→ takeComment_cut]

theorem readToken_cut {c : Char} (read : readToken c (s ++ v) = .ok (piece, u ++ v)) :
    readToken c s = .ok (piece, u) := by
  unfold readToken at read ⊢
  split at read
  · exact readMarked_cut read
  · rename_i rest opened
    cases s with
    | nil =>
        rw [List.nil_append] at opened
        rw [← opened] at read
        have alone : readTag ['#'] = .ok (piece, u) := readTag_cut read
        rw [opened] at read
        have nonempty := readTag_source_ne_nil (by simp [StartsName]) read
        rw [readTag, takeName_of_stop (by simp [StartsName, isNameCharacter, isNameStart])] at alone
        cases alone
        exact absurd rfl nonempty
    | cons d s =>
        injection opened with mark same
        subst mark same
        exact readTag_cut read
  · rename_i unopened
    have cut := readMarked_cut read
    split
    all_goals grind
  · simpa using read
  · exact readNesting_cut read
  · exact readAttribute_cut read
  · rename_i rest colons
    cases s with
    | nil =>
        have same := congrArg List.length (readPseudo_append read)
        unfold readPseudo at read
        grind [Piece.source]
    | cons d s =>
        injection colons with mark same
        subst mark same
        exact readPseudo_cut read
  · rename_i single
    have cut := readPseudo_cut read
    split
    all_goals grind
  · exact readComment_cut read
  · exact readPlaceholder_cut read
  · split at read
    · rename_i starts
      have cut := readTag_cut (s := _ :: s) read
      split <;> simp_all
    · cases read

theorem readPiece_cut {c : Char} (read : readPiece c (s ++ v) = .ok (piece, u ++ v)) :
    readPiece c s = .ok (piece, u) := by
  unfold readPiece at read ⊢
  split at read
  · rename_i blank
    injection read with same
    injection same with space left
    have whole := List.takeWhile_append_dropWhile (p := isBlank) (l := s ++ v)
    rw [left, ← List.append_assoc] at whole
    have split := List.append_cancel_right whole
    have first : ∀ d ∈ u.head?, isBlank d = false := by
      intro d found
      apply not_of_head?_dropWhile isBlank (s ++ v)
      rw [left, List.head?_append, found]
      rfl
    have blanks : AllBlank ((s ++ v).takeWhile isBlank) := fun _ => List.mem_takeWhile_imp
    have taken := takeWhile_of_blanks blanks first
    have rest := trimStart_of_blanks blanks first
    rw [split] at taken rest
    rw [if_pos blank, taken, ← trimStart, rest, space]
  · rename_i notBlank
    rw [if_neg notBlank]
    split at read
    · simpa using read
    · exact readToken_cut read

end Cut

theorem ReadsTo.cut {s t u v : Text} {pieces : List Piece} (read : ReadsTo t pieces (u ++ v))
    (whole : t = s ++ v) : ReadsTo s pieces u := by
  generalize final : u ++ v = w at read
  induction read generalizing s with
  | done t =>
      subst final
      rw [List.append_cancel_right whole]
      exact .done s
  | @piece c rest after final piece pieces inside read more ih =>
      subst final
      have left := more.sources_append
      rw [← List.append_assoc] at left
      cases s with
      | nil =>
          -- The first piece would have been read from what is to be cut off.
          have shorter := readPiece_shorter read
          have same := congrArg List.length left
          rw [whole] at shorter
          simp only [List.length_append, List.nil_append] at shorter same
          omega
      | cons d s =>
          injection whole with first rest
          subst first rest left
          exact .piece inside (readPiece_cut read) (ih rfl rfl)

end ClassLint
