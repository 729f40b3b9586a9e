import ClassLint.Proofs.CommaLists
import ClassLint.Proofs.ListConcatenation

/-! Trimming a selector list before it is read. Blanks in front of it say nothing, and those behind
it say nothing either, unless they belong to its last name: a blank after a backslash does, and so
does one that is a name character. A text cut before such a blank has another name, or none. -/

namespace ClassLint

/-! ### Groups and comments that are not closed -/

/-- The marks of a bracket are neither blanks nor backslashes. -/
structure Bracket.Plain (bracket : Bracket) : Prop where
  opening : isBlank bracket.opening = false ∧ bracket.opening ≠ '\\'
  closing : isBlank bracket.closing = false ∧ bracket.closing ≠ '\\'

theorem takeGroup_of_passed {bracket : Bracket} {quote : Option Char} {depth : Nat} {c : Char}
    {rest : Text} (escapes : c = '\\' → rest = []) (unquoted : isQuote c = false)
    (quoted : ∀ q ∈ quote, isQuote q = true) (notOpening : c ≠ bracket.opening)
    (notClosing : c ≠ bracket.closing) :
    takeGroup bracket quote depth (c :: rest) =
      (takeGroup bracket quote depth rest).map (Taken.push c) := by
  cases quote with
  | none =>
      rw [takeGroup.eq_def]
      grind
  | some q =>
      have other : c ≠ q := by
        rintro rfl
        rw [quoted c rfl] at unquoted
        cases unquoted
      rw [takeGroup.eq_def]
      grind

section Open

variable {bracket : Bracket} {quote : Option Char} {depth : Nat} {s v : Text}
  {construct : Construct}

theorem takeGroup_blanks (plain : bracket.Plain) (quoted : ∀ q ∈ quote, isQuote q = true)
    (blank : AllBlank v) (failed : takeGroup bracket quote depth [] = .error construct) :
    takeGroup bracket quote depth v = .error construct := by
  induction v with
  | nil => exact failed
  | cons c v ih =>
      obtain ⟨first, others⟩ := List.forall_mem_cons.mp blank
      have unquoted : isQuote c = false := by
        simp [isQuote, ne_of_isBlank first (d := '"') (by decide),
          ne_of_isBlank first (d := '\'') (by decide)]
      rw [takeGroup_of_passed (fun same => absurd same (ne_of_isBlank first (by decide))) unquoted
        quoted (ne_of_isBlank first plain.opening.1) (ne_of_isBlank first plain.closing.1),
        ih others]
      rfl

theorem takeGroup_backslash_blanks (plain : bracket.Plain) (quoted : ∀ q ∈ quote, isQuote q = true)
    (blank : AllBlank v) (failed : takeGroup bracket quote depth ['\\'] = .error construct) :
    takeGroup bracket quote depth ('\\' :: v) = .error construct := by
  rw [takeGroup_of_passed (fun _ => rfl) (by decide) quoted plain.opening.2.symm
    plain.closing.2.symm, map_eq_error_iff] at failed
  cases v with
  | nil =>
      rw [takeGroup_of_passed (fun _ => rfl) (by decide) quoted plain.opening.2.symm
        plain.closing.2.symm, failed]
      rfl
  | cons c v =>
      obtain ⟨-, others⟩ := List.forall_mem_cons.mp blank
      rw [takeGroup, takeGroup_blanks plain quoted others failed]
      rfl

theorem takeGroup_cons_cases {c : Char} (unescaped : c ≠ '\\')
    (quoted : ∀ q ∈ quote, isQuote q = true) :
    (∃ (next : Option Char) (inner : Nat), (∀ q ∈ next, isQuote q = true) ∧
      ∀ t, takeGroup bracket quote depth (c :: t) =
        (takeGroup bracket next inner t).map (Taken.push c)) ∨
      ∀ t, takeGroup bracket quote depth (c :: t) = .ok ([c], t) := by
  cases quote with
  | some q =>
      refine .inl ⟨if c = q then none else some q, depth, ?_, ?_⟩
      · intro d member
        split at member
        · cases member
        · exact quoted d member
      · intro t
        rw [takeGroup]
        exact fun _ _ same => absurd same unescaped
  | none =>
      simp only [takeGroup_cons unescaped]
      by_cases opens : isQuote c = true
      · refine .inl ⟨some c, depth, ?_, fun t => by rw [if_pos opens]⟩
        rintro _ ⟨⟩
        exact opens
      simp only [if_neg opens]
      by_cases opening : c = bracket.opening
      · exact .inl ⟨none, depth + 1, by simp, fun t => by rw [if_pos opening]⟩
      simp only [if_neg opening]
      by_cases closing : c = bracket.closing
      · simp only [if_pos closing]
        cases depth with
        | zero => exact .inr fun t => rfl
        | succ inner => exact .inl ⟨none, inner, by simp, fun t => rfl⟩
      · exact .inl ⟨none, depth, by simp, fun t => by rw [if_neg closing]⟩

theorem takeGroup_append_blanks (plain : bracket.Plain) (quoted : ∀ q ∈ quote, isQuote q = true)
    (blank : AllBlank v) (failed : takeGroup bracket quote depth s = .error construct) :
    takeGroup bracket quote depth (s ++ v) = .error construct := by
  -- Two characters at a time, as a backslash takes the character after it.
  induction s using List.twoStepInduction generalizing quote depth with
  | nil => exact takeGroup_blanks plain quoted blank failed
  | singleton c =>
      by_cases escapes : c = '\\'
      · subst escapes
        exact takeGroup_backslash_blanks plain quoted blank failed
      rcases takeGroup_cons_cases escapes quoted with ⟨next, inner, quoted, step⟩ | closed
      · rw [step, map_eq_error_iff] at failed
        rw [List.singleton_append, step, takeGroup_blanks plain quoted blank failed]
        rfl
      · rw [closed] at failed
        cases failed
  | cons_cons c d s later rest =>
      by_cases escapes : c = '\\'
      · subst escapes
        rw [takeGroup, map_eq_error_iff] at failed
        rw [List.cons_append, List.cons_append, takeGroup, later quoted failed]
        rfl
      rcases takeGroup_cons_cases escapes quoted with ⟨next, inner, quoted, step⟩ | closed
      · rw [step, map_eq_error_iff] at failed
        rw [List.cons_append, step, rest _ quoted failed]
        rfl
      · rw [closed] at failed
        cases failed

theorem takeGroup_append_cases (plain : bracket.Plain) (blank : AllBlank v) (s : Text) :
    (∃ construct, takeGroup bracket none 0 s = .error construct ∧
      takeGroup bracket none 0 (s ++ v) = .error construct) ∨
    ∃ inner rest, takeGroup bracket none 0 s = .ok (inner, rest) ∧
      takeGroup bracket none 0 (s ++ v) = .ok (inner, rest ++ v) := by
  cases read : takeGroup bracket none 0 s with
  | error construct =>
      exact .inl ⟨construct, rfl, takeGroup_append_blanks plain (by simp) blank read⟩
  | ok taken =>
      have again := takeGroup_replace plain.closing.2 read (taken.2 ++ v)
      rw [← List.append_assoc, takeGroup_append read] at again
      exact .inr ⟨taken.1, taken.2, rfl, again⟩

end Open

theorem exists_append_of_endsVisibly {t rest s v : Text} (blank : AllBlank v)
    (whole : t ++ rest = s ++ v) (visible : ∀ c ∈ t.getLast?, isBlank c = false) :
    ∃ u, rest = u ++ v := by
  rcases List.append_eq_append_iff.mp whole with ⟨u, -, same⟩ | ⟨u, same, rfl⟩
  · exact ⟨u, same⟩
  · rw [same] at visible
    obtain rfl := eq_nil_of_allBlank (allBlank_append.mp blank).1 (last_visible_of_append visible)
    exact ⟨[], rfl⟩

theorem takeComment_append_blanks {s v : Text} (blank : AllBlank v)
    (unclosed : takeComment s = none) : takeComment (s ++ v) = none := by
  cases read : takeComment (s ++ v) with
  | none => rfl
  | some taken =>
      have whole : (taken.1 ++ ['*', '/']) ++ taken.2 = s ++ v := by
        rw [← takeComment_append read]
        simp
      obtain ⟨u, left⟩ := exists_append_of_endsVisibly blank whole (by simp; decide)
      rw [takeComment_cut read left] at unclosed
      cases unclosed

/-! ### Names -/

/-- How the name at the start of a text is read with blanks after the text, and without them. It
fails alike, it ends within the text, or it takes some of the blanks; and then the text alone fails,
or its name lacks these blanks. -/
inductive NameCut (v : Text) : Except Construct Name → Except Construct Name → Prop where
  | fault (construct : Construct) : NameCut v (.error construct) (.error construct)
  | within (value raw rest : Text) :
      NameCut v (.ok ⟨value, raw, rest ++ v⟩) (.ok ⟨value, raw, rest⟩)
  | swallowing {value raw blanks rest : Text} {short : Except Construct Name}
      (nonempty : blanks ≠ []) (divided : blanks ++ rest = v) (valued : blanks <:+ value)
      (written : blanks <:+ raw)
      (shorter : ∀ name, short = .ok name →
        value = name.value ++ blanks ∧ raw = name.raw ++ blanks ∧ name.rest = []) :
      NameCut v (.ok ⟨value, raw, rest⟩) short

theorem NameCut.push {v : Text} {long short : Except Construct Name} (cut : NameCut v long short)
    (value raw : Text) : NameCut v (long.map (Name.push value raw))
      (short.map (Name.push value raw)) := by
  cases cut with
  | fault construct => exact .fault construct
  | within inner source rest => exact .within (value ++ inner) (raw ++ source) rest
  | swallowing nonempty divided valued written shorter =>
      refine .swallowing nonempty divided (valued.trans (List.suffix_append _ _))
        (written.trans (List.suffix_append _ _)) ?_
      intro name found
      obtain ⟨inner, read, rfl⟩ := exists_of_map_eq_ok found
      obtain ⟨rfl, rfl, ended⟩ := shorter inner read
      exact ⟨by simp [Name.push], by simp [Name.push], ended⟩

theorem exists_takeName_blanks {v : Text} (blank : AllBlank v) :
    ∃ blanks rest, blanks ++ rest = v ∧ takeName v = .ok ⟨blanks, blanks, rest⟩ := by
  induction v with
  | nil => exact ⟨[], [], rfl, takeName_of_stop id⟩
  | cons c v ih =>
      obtain ⟨first, others⟩ := List.forall_mem_cons.mp blank
      by_cases character : isNameCharacter c = true
      · obtain ⟨blanks, rest, rfl, read⟩ := ih others
        refine ⟨c :: blanks, rest, rfl, ?_⟩
        rw [takeName_of_character character, read]
        rfl
      · refine ⟨[], c :: v, rfl, takeName_of_stop ?_⟩
        rw [startsName_cons_iff]
        rintro (⟨mark, -⟩ | same | escape)
        · exact ne_of_isBlank first (by decide) mark
        · exact character same
        · exact ne_of_isBlank first (by decide) escape

theorem takeName_of_open {rest : Text} {construct : Construct}
    (failed : takeGroup .braces none 0 rest = .error construct) :
    takeName ('#' :: '{' :: rest) = .error construct := by
  rw [takeName]
  split
  · rename_i found
    rw [found] at failed
    cases failed
    rfl
  · rename_i found
    rw [found] at failed
    cases failed

theorem not_startsName_append_blanks {c : Char} {rest v : Text} (blank : AllBlank v)
    (stops : ¬StartsName (c :: rest)) : ¬StartsName (c :: rest ++ v) := by
  rw [startsName_cons_iff] at stops
  rw [List.cons_append, startsName_cons_iff]
  rintro (⟨rfl, brace⟩ | other)
  · rw [List.head?_append] at brace
    rcases Option.or_eq_some_iff.mp brace with brace | ⟨-, brace⟩
    · exact stops (.inl ⟨rfl, brace⟩)
    · exact ne_of_isBlank (blank _ (List.mem_of_mem_head? brace)) (by decide) rfl
  · exact stops (.inr other)

theorem nameCut_takeName {v : Text} (blank : AllBlank v) (s : Text) :
    NameCut v (takeName (s ++ v)) (takeName s) := by
  fun_induction takeName s
  case case1 c rest ih =>
    rw [List.cons_append, List.cons_append, takeName_escape]
    exact ih.push [c] ['\\', c]
  case case2 =>
    -- A backslash at the end takes the first blank with it, and is refused if there is none.
    cases v with
    | nil =>
        rw [List.append_nil, takeName]
        exact .fault .escape
    | cons c v =>
        obtain ⟨-, others⟩ := List.forall_mem_cons.mp blank
        obtain ⟨blanks, rest, rfl, read⟩ := exists_takeName_blanks others
        rw [List.singleton_append, takeName_escape, read]
        exact .swallowing (List.cons_ne_nil c blanks) rfl List.suffix_rfl (List.suffix_cons _ _)
          (by simp)
  case case3 rest construct failed =>
    have again := takeGroup_append_blanks ⟨by decide, by decide⟩ (by simp) blank failed
    rw [List.cons_append, List.cons_append, takeName_of_open again]
    exact .fault construct
  case case4 rest taken found _ group ih =>
    have whole := takeGroup_append found
    have again := takeGroup_replace (by decide) found (taken.2 ++ v)
    rw [← List.append_assoc, whole] at again
    rw [List.cons_append, List.cons_append, takeName_of_group again]
    exact ih.push group group
  case case5 c rest _ _ _ character ih =>
    rw [List.cons_append, takeName_of_character character]
    exact ih.push [c] [c]
  case case6 c rest unescaped single plain other =>
    have read : takeName (c :: rest) = .ok ⟨[], [], c :: rest⟩ := by
      rw [takeName, if_neg other]
      · exact unescaped
      · exact single
      · exact plain
    rw [takeName_of_stop (not_startsName_append_blanks blank (not_startsName_rest read))]
    exact .within [] [] (c :: rest)
  case case7 =>
    obtain ⟨blanks, rest, divided, read⟩ := exists_takeName_blanks blank
    rw [List.nil_append, read]
    by_cases nonempty : blanks = []
    · obtain rfl : rest = v := by simpa [nonempty] using divided
      rw [nonempty]
      exact .within [] [] []
    · refine .swallowing nonempty divided List.suffix_rfl List.suffix_rfl ?_
      rintro _ ⟨⟩
      exact ⟨rfl, rfl, rfl⟩

/-! ### Pieces -/

def Token.EndsInBlank (token : Token) : Prop := ∃ c ∈ token.raw.getLast?, isBlank c = true

theorem Token.endsInBlank_of_suffix {token : Token} {blanks : Text} (nonempty : blanks ≠ [])
    (blank : AllBlank blanks) (written : blanks <:+ token.raw) : token.EndsInBlank := by
  obtain ⟨front, same⟩ := written
  refine ⟨blanks.getLast nonempty, ?_, blank _ (List.getLast_mem nonempty)⟩
  rw [← same, List.getLast?_append_of_ne_nil front nonempty, List.getLast?_eq_some_getLast nonempty]
  exact rfl

/-- How a piece is read with blanks after the text, and without them. -/
inductive PieceCut (v : Text) :
    Except SelectorFault (Piece × Text) → Except SelectorFault (Piece × Text) → Prop where
  | fault (fault : SelectorFault) : PieceCut v (.error fault) (.error fault)
  | within (piece : Piece) (rest : Text) : PieceCut v (.ok (piece, rest ++ v)) (.ok (piece, rest))
  | swallowing {token : Token} {rest : Text} {short : Except SelectorFault (Piece × Text)}
      (blank : AllBlank rest) (ends : token.EndsInBlank) (named : token.isComment = false)
      (shorter : ∀ piece after, short = .ok (piece, after) → after = [] ∧
        ∃ other : Token, piece = .token other ∧ other.isComment = false ∧
          other.value ≠ token.value) :
      PieceCut v (.ok (.token token, rest)) short

theorem PieceCut.of_blanks {v blanks rest : Text} {token : Token}
    {short : Except SelectorFault (Piece × Text)} (blank : AllBlank v) (nonempty : blanks ≠ [])
    (divided : blanks ++ rest = v) (written : blanks <:+ token.raw)
    (named : token.isComment = false)
    (shorter : ∀ piece after, short = .ok (piece, after) → after = [] ∧
      ∃ other : Token, piece = .token other ∧ other.isComment = false ∧
        token.value = other.value ++ blanks) :
    PieceCut v (.ok (.token token, rest)) short := by
  subst divided
  obtain ⟨taken, left⟩ := allBlank_append.mp blank
  refine .swallowing left (token.endsInBlank_of_suffix nonempty taken written) named ?_
  intro piece after read
  obtain ⟨ended, other, same, plain, value⟩ := shorter piece after read
  refine ⟨ended, other, same, plain, ?_⟩
  rw [value]
  simpa using nonempty

def pieceOfName (kind : Kind) (marked written : Text) (refuses : Text → Text → Bool)
    (fault : SelectorFault) : Except Construct Name → Except SelectorFault (Piece × Text)
  | .error construct => .error (.unterminated construct)
  | .ok name =>
    if refuses name.value name.raw then .error fault
    else .ok (.token ⟨kind, marked ++ name.value, written ++ name.raw⟩, name.rest)

theorem NameCut.pieceOfName {v : Text} {long short : Except Construct Name}
    (cut : NameCut v long short) (blank : AllBlank v) {kind : Kind} (named : kind ≠ .comment)
    (marked written : Text) {refuses : Text → Text → Bool}
    (accepts : ∀ value raw, value ≠ [] → raw ≠ [] → refuses value raw = false)
    (fault : SelectorFault) :
    PieceCut v (pieceOfName kind marked written refuses fault long)
      (pieceOfName kind marked written refuses fault short) := by
  cases cut with
  | fault construct => exact .fault _
  | within value raw rest =>
      simp only [ClassLint.pieceOfName]
      split
      · exact .fault fault
      · exact .within _ rest
  | swallowing nonempty divided valued source shorter =>
      simp only [ClassLint.pieceOfName,
        accepts _ _ (valued.ne_nil nonempty) (source.ne_nil nonempty), Bool.false_eq_true, if_false]
      have suffix := source.trans (List.suffix_append written _)
      refine .of_blanks blank nonempty divided suffix (beq_false_of_ne named) ?_
      intro piece after read
      cases short with
      | error construct => cases read
      | ok name =>
          obtain ⟨rfl, -, ended⟩ := shorter name rfl
          simp only at read
          split at read
          · cases read
          · cases read
            exact ⟨ended, _, rfl, beq_false_of_ne named, (List.append_assoc _ _ _).symm⟩

section Readers

variable {v : Text}

theorem pieceCut_readMarked (blank : AllBlank v) {kind : Kind} (named : kind ≠ .comment)
    (mark : Char) (s : Text) :
    PieceCut v (readMarked kind mark (s ++ v)) (readMarked kind mark s) := by
  have same (t : Text) : readMarked kind mark t =
      pieceOfName kind [] [mark] (fun value _ => value.isEmpty) (.expectedName mark)
        (takeName t) := by
    unfold readMarked
    cases takeName t <;> rfl
  rw [same, same]
  exact (nameCut_takeName blank s).pieceOfName blank named _ _ (by simp +contextual) _

theorem pieceCut_readPlaceholder (blank : AllBlank v) (s : Text) :
    PieceCut v (readPlaceholder (s ++ v)) (readPlaceholder s) := by
  have same (t : Text) : readPlaceholder t =
      pieceOfName .tag ['%'] ['%'] (fun _ raw => raw.isEmpty) (.expectedName '%')
        (takeName t) := by
    unfold readPlaceholder
    cases takeName t <;> rfl
  rw [same, same]
  exact (nameCut_takeName blank s).pieceOfName blank (by decide) _ _ (by simp) _

theorem pieceCut_readNesting (blank : AllBlank v) (s : Text) :
    PieceCut v (readNesting (s ++ v)) (readNesting s) := by
  have same (t : Text) : readNesting t =
      pieceOfName .nesting ['&'] ['&'] (fun _ _ => false) .empty (takeName t) := by
    unfold readNesting
    cases takeName t <;> rfl
  rw [same, same]
  exact (nameCut_takeName blank s).pieceOfName blank (by decide) _ _ (by simp) _

theorem pieceCut_readTag (blank : AllBlank v) (s : Text) :
    PieceCut v (readTag (s ++ v)) (readTag s) := by
  have same (t : Text) : readTag t =
      pieceOfName .tag [] [] (fun _ _ => false) .empty (takeName t) := by
    unfold readTag
    cases takeName t <;> rfl
  rw [same, same]
  exact (nameCut_takeName blank s).pieceOfName blank (by decide) _ _ (by simp) _

theorem pieceCut_readAttribute (blank : AllBlank v) (s : Text) :
    PieceCut v (readAttribute (s ++ v)) (readAttribute s) := by
  have plain : Bracket.square.Plain := ⟨by decide, by decide⟩
  unfold readAttribute
  rcases takeGroup_append_cases plain blank s with
    ⟨construct, alone, long⟩ | ⟨inner, rest, alone, long⟩
  · rw [alone, long]
    exact .fault _
  · rw [alone, long]
    simp only
    split
    · exact .fault _
    · exact .within _ rest

theorem pieceCut_readComment (blank : AllBlank v) (s : Text) :
    PieceCut v (readComment (s ++ v)) (readComment s) := by
  unfold readComment
  split
  · rename_i body same
    cases s with
    | nil =>
        rw [List.nil_append] at same
        exact absurd rfl (ne_of_isBlank (blank '*' (by simp [same])) (by decide))
    | cons c s =>
        obtain ⟨rfl, tail⟩ := List.cons.inj same
        obtain rfl : body = s ++ v := tail.symm
        simp only
        cases read : takeComment s with
        | none =>
            rw [takeComment_append_blanks blank read]
            exact .fault _
        | some taken =>
            have again := takeComment_replace read (taken.2 ++ v)
            have whole : taken.1 ++ '*' :: '/' :: (taken.2 ++ v) = s ++ v := by
              rw [← takeComment_append read]
              simp
            rw [whole] at again
            rw [again]
            exact .within _ _
  · rename_i other
    split
    · rename_i body
      exact absurd rfl (other (body ++ v))
    · exact .fault _

theorem readPseudo_of_name {colons t : Text} {name : Name} (read : takeName t = .ok name)
    (filled : name.value ≠ []) (unopened : ∀ arguments, name.rest ≠ '(' :: arguments) :
    readPseudo colons t = .ok (.token ⟨pseudoKind colons name.value, colons ++ name.raw,
      colons ++ name.raw⟩, name.rest) := by
  unfold readPseudo
  rw [read]
  simp only [List.isEmpty_iff, filled, if_false]

theorem pieceCut_readPseudo (blank : AllBlank v) (colons s : Text) :
    PieceCut v (readPseudo colons (s ++ v)) (readPseudo colons s) := by
  have cut := nameCut_takeName blank s
  generalize long : takeName (s ++ v) = longName, short : takeName s = shortName at cut
  cases cut with
  | fault construct =>
      rw [readPseudo, readPseudo, long, short]
      exact .fault _
  | within value raw rest =>
      rw [readPseudo, readPseudo, long, short]
      simp only
      split
      · exact .fault _
      split
      · rename_i arguments same
        -- No blank opens the arguments.
        cases rest with
        | nil =>
            rw [List.nil_append] at same
            exact absurd rfl (ne_of_isBlank (blank '(' (by simp [same])) (by decide))
        | cons c rest =>
            obtain ⟨rfl, tail⟩ := List.cons.inj same
            obtain rfl : arguments = rest ++ v := tail.symm
            have plain : Bracket.round.Plain := ⟨by decide, by decide⟩
            simp only
            rcases takeGroup_append_cases plain blank rest with
              ⟨construct, alone, longer⟩ | ⟨inner, after, alone, longer⟩
            · rw [alone, longer]
              exact .fault _
            · rw [alone, longer]
              exact .within _ after
      · rename_i other
        split
        · rename_i arguments
          exact absurd rfl (other (arguments ++ v))
        · exact .within _ _
  | @swallowing value raw blanks rest _ nonempty divided valued written shorter =>
      have kind (name : Text) : pseudoKind colons name ≠ .comment := by
        unfold pseudoKind
        split <;> decide
      have unopened : ∀ arguments, rest ≠ '(' :: arguments := by
        rintro arguments rfl
        exact ne_of_isBlank (blank '(' (by simp [← divided])) (by decide) rfl
      have suffix := written.trans (List.suffix_append colons raw)
      rw [readPseudo_of_name long (valued.ne_nil nonempty) unopened]
      refine .of_blanks blank nonempty divided suffix (beq_false_of_ne (kind value)) ?_
      intro piece after read
      rw [readPseudo, short] at read
      cases shortName with
      | error construct => cases read
      | ok name =>
          obtain ⟨-, source, ended⟩ := shorter name rfl
          simp only [ended] at read
          split at read
          · cases read
          · cases read
            refine ⟨rfl, _, rfl, beq_false_of_ne (kind name.value), ?_⟩
            rw [source, List.append_assoc]

theorem exists_of_append_eq_cons {s rest : Text} {d : Char} (blank : AllBlank v)
    (visible : isBlank d = false) (same : s ++ v = d :: rest) :
    ∃ inner, s = d :: inner ∧ rest = inner ++ v := by
  cases s with
  | nil =>
      rw [List.nil_append] at same
      exact absurd rfl (ne_of_isBlank (blank d (by simp [same])) visible)
  | cons c s =>
      obtain ⟨rfl, tail⟩ := List.cons.inj same
      exact ⟨s, rfl, tail.symm⟩

theorem pieceCut_readToken (blank : AllBlank v) (c : Char) (s : Text) :
    PieceCut v (readToken c (s ++ v)) (readToken c s) := by
  unfold readToken
  split
  · exact pieceCut_readMarked blank (by decide) '.' s
  · rename_i rest same
    obtain ⟨inner, rfl, rfl⟩ := exists_of_append_eq_cons blank (by decide) same
    exact pieceCut_readTag blank ('#' :: '{' :: inner)
  · rename_i unopened
    split <;> try contradiction
    · exact absurd rfl (unopened _)
    · exact pieceCut_readMarked blank (by decide) '#' _
  · exact .within _ s
  · exact pieceCut_readNesting blank s
  · exact pieceCut_readAttribute blank s
  · rename_i rest same
    obtain ⟨inner, rfl, rfl⟩ := exists_of_append_eq_cons blank (by decide) same
    exact pieceCut_readPseudo blank [':', ':'] inner
  · rename_i single
    split <;> try contradiction
    · exact absurd rfl (single _)
    · exact pieceCut_readPseudo blank [':'] _
  · exact pieceCut_readComment blank s
  · exact pieceCut_readPlaceholder blank s
  · have cut (d : Char) : PieceCut v (readTag (d :: (s ++ v))) (readTag (d :: s)) :=
      pieceCut_readTag blank (d :: s)
    split
    · split <;> simp_all
    · split <;> simp_all [PieceCut.fault]

theorem readPiece_blanks_append {c : Char} {s : Text} (first : isBlank c = true)
    (visible : ∀ d ∈ (c :: s).getLast?, isBlank d = false) (v : Text) :
    readPiece c (s ++ v) =
      .ok (.space (c :: s.takeWhile isBlank), s.dropWhile isBlank ++ v) := by
  have whole := List.takeWhile_append_dropWhile (p := isBlank) (l := s)
  have blanks : AllBlank (s.takeWhile isBlank) := fun _ => List.mem_takeWhile_imp
  obtain ⟨d, rest, left⟩ : ∃ d rest, s.dropWhile isBlank = d :: rest := by
    apply List.exists_cons_of_ne_nil
    intro ended
    rw [ended, List.append_nil] at whole
    rw [whole] at blanks
    exact List.cons_ne_nil c s
      (eq_nil_of_allBlank (List.forall_mem_cons.mpr ⟨first, blanks⟩) visible)
  have stop : ∀ e ∈ (s.dropWhile isBlank ++ v).head?, isBlank e = false := by
    intro e found
    apply visible_dropWhile s
    rwa [left] at found ⊢
  have taken := takeWhile_of_blanks blanks stop
  have rest := trimStart_of_blanks blanks stop
  rw [← List.append_assoc, whole] at taken rest
  rw [readPiece, if_pos first, taken, ← trimStart, rest]

theorem pieceCut_readPiece (blank : AllBlank v) {c : Char} {s : Text}
    (visible : ∀ d ∈ (c :: s).getLast?, isBlank d = false) :
    PieceCut v (readPiece c (s ++ v)) (readPiece c s) := by
  by_cases first : isBlank c = true
  · have alone := readPiece_blanks_append first visible []
    rw [List.append_nil, List.append_nil] at alone
    rw [readPiece_blanks_append first visible v, alone]
    exact .within _ _
  · rw [readPiece, readPiece, if_neg first, if_neg first]
    split
    · exact .within _ s
    · exact pieceCut_readToken blank c s

end Readers

/-! ### Lists -/

/-- How a list is read with blanks after the text, and without them: the last selector ends in these
blanks, or in a token that takes some of them. -/
inductive ListCut :
    Except SelectorFault (List (List Piece)) → Except SelectorFault (List (List Piece)) → Prop where
  | fault (fault : SelectorFault) : ListCut (.error fault) (.error fault)
  | spaces (front : List (List Piece)) (last : List Piece) {spaces : List Piece}
      (each : ∀ piece ∈ spaces, piece.isSpace = true) :
      ListCut (.ok (front ++ [last ++ spaces])) (.ok (front ++ [last]))
  | swallowing (front : List (List Piece)) (last : List Piece) {token : Token}
      {spaces : List Piece} {short : Except SelectorFault (List (List Piece))}
      (each : ∀ piece ∈ spaces, piece.isSpace = true) (ends : token.EndsInBlank)
      (named : token.isComment = false)
      (shorter : ∀ groups, short = .ok groups → ∃ other : Token, other.isComment = false ∧
        other.value ≠ token.value ∧ groups = front ++ [last ++ [.token other]]) :
      ListCut (.ok (front ++ [last ++ .token token :: spaces])) short

namespace ListCut

variable {long short : Except SelectorFault (List (List Piece))}

theorem comma (cut : ListCut long short) :
    ListCut (long.map ([] :: ·)) (short.map ([] :: ·)) := by
  cases cut with
  | fault fault => exact .fault fault
  | spaces front last each => exact .spaces ([] :: front) last each
  | swallowing front last each ends named shorter =>
      refine .swallowing ([] :: front) last each ends named ?_
      intro groups read
      obtain ⟨inner, found, rfl⟩ := exists_of_map_eq_ok read
      obtain ⟨other, plain, value, rfl⟩ := shorter inner found
      exact ⟨other, plain, value, rfl⟩

theorem consPiece (piece : Piece) (cut : ListCut long short) :
    ListCut (long.map (ClassLint.consPiece piece)) (short.map (ClassLint.consPiece piece)) := by
  cases cut with
  | fault fault => exact .fault fault
  | spaces front last each =>
      cases front with
      | nil => exact .spaces [] (piece :: last) each
      | cons group front => exact .spaces ((piece :: group) :: front) last each
  | swallowing front last each ends named shorter =>
      cases front with
      | nil =>
          refine .swallowing [] (piece :: last) each ends named ?_
          intro groups read
          obtain ⟨inner, found, rfl⟩ := exists_of_map_eq_ok read
          obtain ⟨other, plain, value, rfl⟩ := shorter inner found
          exact ⟨other, plain, value, rfl⟩
      | cons group front =>
          refine .swallowing ((piece :: group) :: front) last each ends named ?_
          intro groups read
          obtain ⟨inner, found, rfl⟩ := exists_of_map_eq_ok read
          obtain ⟨other, plain, value, rfl⟩ := shorter inner found
          exact ⟨other, plain, value, rfl⟩

end ListCut

theorem exists_readPieces_blanks {v : Text} (blank : AllBlank v) :
    ∃ spaces, (∀ piece ∈ spaces, piece.isSpace = true) ∧ readPieces v = .ok [spaces] := by
  by_cases nonempty : v = []
  · rw [nonempty]
    exact ⟨[], by simp, readPieces_of_readsTo_nil (.done [])⟩
  · have read : ReadsTo (v ++ []) [.space v] [] := reads_blanks nonempty blank (by simp)
    rw [List.append_nil] at read
    exact ⟨[.space v], by simp [Piece.isSpace], readPieces_of_readsTo_nil read⟩

theorem readPieces_of_fault {c : Char} {rest : Text} {fault : SelectorFault} (inside : c ≠ ',')
    (failed : readPiece c rest = .error fault) : readPieces (c :: rest) = .error fault := by
  rw [readPieces, if_neg inside]
  split
  · rename_i found
    rw [failed] at found
    cases found
    rfl
  · rename_i found
    rw [failed] at found
    cases found

theorem listCut_readPieces {v : Text} (blank : AllBlank v) (s : Text)
    (visible : ∀ c ∈ s.getLast?, isBlank c = false) :
    ListCut (readPieces (s ++ v)) (readPieces s) := by
  fun_induction readPieces s
  case case1 =>
    obtain ⟨spaces, each, read⟩ := exists_readPieces_blanks blank
    rw [List.nil_append, read]
    exact .spaces [] [] each
  case case2 rest ih =>
    rw [List.cons_append, readPieces, if_pos rfl]
    exact (ih (last_visible_of_append (s := [',']) visible)).comma
  case case3 c rest inside fault failed =>
    have cut := pieceCut_readPiece blank visible
    generalize long : readPiece c (rest ++ v) = longPiece at cut
    rw [failed] at cut
    cases cut with
    | fault fault =>
        rw [List.cons_append, readPieces_of_fault inside long]
        exact .fault fault
    -- The last token takes some of the blanks, so only blanks are left to read.
    | swallowing left ends named shorter =>
        obtain ⟨spaces, each, read⟩ := exists_readPieces_blanks left
        rw [List.cons_append, readPieces_of_piece inside long, read]
        exact .swallowing [] [] each ends named (by simp)
  case case4 c rest inside piece after found _ ih =>
    have cut := pieceCut_readPiece blank visible
    generalize long : readPiece c (rest ++ v) = longPiece at cut
    rw [found] at cut
    cases cut with
    | within piece after =>
        rw [← readPiece_append found] at visible
        rw [List.cons_append, readPieces_of_piece inside long]
        exact (ih (last_visible_of_append visible)).consPiece piece
    | swallowing left ends named shorter =>
        obtain ⟨rfl, other, rfl, plain, value⟩ := shorter piece after rfl
        obtain ⟨spaces, each, read⟩ := exists_readPieces_blanks left
        rw [List.cons_append, readPieces_of_piece inside long, read]
        refine .swallowing [] [] each ends named ?_
        intro groups short
        rw [readPieces] at short
        cases short
        exact ⟨other, plain, value, rfl⟩

/-! ### What a list says -/

def said (pieces : List Piece) : Except SelectorFault (List (Kind × Text)) :=
  (Selector.ofPieces pieces).map Selector.meaning

/-- What a text says as a list of selectors, or what is wrong with it. -/
def reading (t : Text) : Except SelectorFault (List (List (Kind × Text))) :=
  ((Selector.parseList t).map (List.map Selector.meaning)).mapError SelectorError.fault

theorem said_congr {pieces others : List Piece}
    (same : (joinPieces false none pieces).map (List.map Token.meaning) =
      (joinPieces false none others).map (List.map Token.meaning)) : said pieces = said others := by
  unfold said Selector.ofPieces
  generalize joinPieces false none pieces = first, joinPieces false none others = second at same ⊢
  cases first with
  | error fault =>
      cases second with
      | error other =>
          cases same
          rfl
      | ok tokens => cases same
  | ok tokens =>
      cases second with
      | error fault => cases same
      | ok found =>
          have meanings : tokens.map Token.meaning = found.map Token.meaning := Except.ok.inj same
          cases tokens <;> cases found <;> simp_all [Except.map, Selector.meaning]

theorem getLast?_of_said {pieces spaces : List Piece} {token : Token} {kinds : List (Kind × Text)}
    (named : token.isComment = false) (each : ∀ piece ∈ spaces, piece.isSpace = true)
    (read : said (pieces ++ .token token :: spaces) = .ok kinds) :
    kinds.getLast? = some token.meaning := by
  obtain ⟨selector, joined, rfl⟩ := exists_of_map_eq_ok read
  obtain ⟨tokens, -⟩ := ofPieces_eq_ok_iff.mp joined
  rw [Selector.meaning, List.getLast?_map, getLast?_joinPieces named each tokens]
  rfl

theorem mapM_said (groups : List (List Piece)) :
    groups.mapM said = (groups.mapM Selector.ofPieces).map (List.map Selector.meaning) := by
  induction groups with
  | nil => rfl
  | cons group groups ih =>
      rw [List.mapM_cons, List.mapM_cons, ih, said]
      cases Selector.ofPieces group with
      | error fault => rfl
      | ok selector => cases groups.mapM Selector.ofPieces <;> rfl

theorem reading_of_fault {t : Text} {fault : SelectorFault} (failed : readPieces t = .error fault) :
    reading t = .error fault := by
  rw [reading, Selector.parseList, Selector.readList, failed]
  rfl

theorem reading_of_readPieces {t : Text} {groups : List (List Piece)}
    (read : readPieces t = .ok groups) : reading t = groups.mapM said := by
  rw [reading, Selector.parseList, Selector.readList, read, mapM_said]
  simp only
  cases groups.mapM Selector.ofPieces <;> rfl

theorem mapM_said_congr (front : List (List Piece)) {last other : List Piece}
    (same : said last = said other) :
    (front ++ [last]).mapM said = (front ++ [other]).mapM said := by
  rw [List.mapM_append, List.mapM_append, List.mapM_cons, List.mapM_cons, same]

theorem reading_blanks_append {blanks s : Text} (blank : AllBlank blanks)
    (visible : ∀ c ∈ s.head?, isBlank c = false) : reading (blanks ++ s) = reading s := by
  by_cases nonempty : blanks = []
  · rw [nonempty, List.nil_append]
  have whole := readPieces_of_readsTo_single (reads_blanks nonempty blank visible)
  cases read : readPieces s with
  | error fault =>
      rw [read] at whole
      rw [reading_of_fault read, reading_of_fault whole]
  | ok groups =>
      rw [read] at whole
      obtain ⟨group, others, rfl, -⟩ := exists_readsTo read
      have each : ∀ piece ∈ [Piece.space blanks], piece.isSpace = true := by simp [Piece.isSpace]
      have same : said (.space blanks :: group) = said group :=
        said_congr (meaning_joinPieces_spaces_append each)
      rw [reading_of_readPieces read, reading_of_readPieces whole, consPiece, List.mapM_cons,
        List.mapM_cons, same]

/-! ### Blanks of a token's own -/

/-- The last token of a list ends in a blank, and only spaces follow it. -/
def EndsInOwnBlank (t : Text) : Prop :=
  ∃ front pieces token spaces, readPieces t = .ok (front ++ [pieces ++ .token token :: spaces]) ∧
    (∀ piece ∈ spaces, piece.isSpace = true) ∧ token.EndsInBlank

def Piece.endsInBlank : Piece → Bool
  | .token written => written.raw.getLast?.any isBlank
  | _ => false

def endsInOwnBlank (t : Text) : Bool :=
  match readPieces t with
  | .error _ => false
  | .ok groups =>
    groups.getLast?.any fun pieces =>
      (pieces.rdropWhile Piece.isSpace).getLast?.any Piece.endsInBlank

theorem exists_token_of_endsInBlank {piece : Piece} (ends : piece.endsInBlank = true) :
    ∃ token, piece = .token token ∧ token.EndsInBlank := by
  cases piece with
  | token token =>
      obtain ⟨c, last, blank⟩ := (Option.any_eq_true _ _).mp ends
      exact ⟨token, rfl, c, last, blank⟩
  | space blanks => cases ends
  | combinator combinator => cases ends

theorem rdropWhile_append_spaces {spaces : List Piece}
    (each : ∀ piece ∈ spaces, piece.isSpace = true) (pieces : List Piece) :
    (pieces ++ spaces).rdropWhile Piece.isSpace = pieces.rdropWhile Piece.isSpace := by
  have reversed : ∀ piece ∈ spaces.reverse, piece.isSpace = true := by simpa using each
  rw [List.rdropWhile, List.reverse_append, List.dropWhile_append_of_pos reversed, List.rdropWhile]

theorem endsInOwnBlank_iff {t : Text} : endsInOwnBlank t = true ↔ EndsInOwnBlank t := by
  unfold endsInOwnBlank EndsInOwnBlank
  cases readPieces t with
  | error fault => simp
  | ok groups =>
      constructor
      · intro found
        obtain ⟨group, final, stripped⟩ := (Option.any_eq_true _ _).mp found
        obtain ⟨front, rfl⟩ := List.getLast?_eq_some_iff.mp final
        obtain ⟨piece, last, ends⟩ := (Option.any_eq_true _ _).mp stripped
        obtain ⟨pieces, same⟩ := List.getLast?_eq_some_iff.mp last
        obtain ⟨token, rfl, blank⟩ := exists_token_of_endsInBlank ends
        have whole : pieces ++ .token token :: group.rtakeWhile Piece.isSpace = group := by
          rw [List.append_cons, ← same, List.rdropWhile_append_rtakeWhile]
        refine ⟨front, pieces, token, group.rtakeWhile Piece.isSpace, by rw [whole],
          fun _ => List.mem_rtakeWhile_imp, blank⟩
      · rintro ⟨front, pieces, token, spaces, same, each, c, last, blank⟩
        cases same
        have stripped : (pieces ++ .token token :: spaces).rdropWhile Piece.isSpace =
            pieces ++ [.token token] := by
          rw [List.append_cons, rdropWhile_append_spaces each]
          exact List.rdropWhile_concat_neg _ _ _ (by simp [Piece.isSpace])
        simp only [List.getLast?_append, List.getLast?_singleton, Option.some_or, Option.any_some,
          stripped]
        exact (Option.any_eq_true _ _).mpr ⟨c, last, blank⟩

instance (t : Text) : Decidable (EndsInOwnBlank t) := decidable_of_iff _ endsInOwnBlank_iff

theorem exists_readsTo_last {t : Text} {front : List (List Piece)} {last : List Piece}
    (read : readPieces t = .ok (front ++ [last])) :
    ∃ middle, middle <:+ t ∧ ReadsTo middle last [] := by
  induction front generalizing t with
  | nil =>
      obtain ⟨group, others, same, ⟨alone, -⟩ | ⟨rest, -, more⟩⟩ := exists_readsTo read
      · cases same
        exact ⟨t, List.suffix_rfl, alone⟩
      · cases same
        obtain ⟨_, _, none, -⟩ := exists_readsTo more
        cases none
  | cons group front ih =>
      obtain ⟨first, others, same, ⟨-, none⟩ | ⟨rest, divided, more⟩⟩ := exists_readsTo read
      · cases same
        simp at none
      · cases same
        obtain ⟨middle, behind, final⟩ := ih more
        have within : rest <:+ t := by
          rw [← divided.sources_append]
          exact (List.suffix_cons ',' rest).trans (List.suffix_append _ _)
        exact ⟨middle, behind.trans within, final⟩

theorem not_endsInOwnBlank {s : Text} (visible : ∀ c ∈ s.getLast?, isBlank c = false) :
    ¬EndsInOwnBlank s := by
  rintro ⟨front, pieces, token, spaces, read, each, c, last, blank⟩
  obtain ⟨middle, ⟨before, rfl⟩, final⟩ := exists_readsTo_last read
  have wellFormed := final.wellFormed
  have whole := final.sources_append
  simp only [List.forall_mem_append, List.forall_mem_cons] at wellFormed
  have blanks : AllBlank (Piece.sources spaces) := allBlank_sources each wellFormed.2.2
  obtain ⟨source, written⟩ := List.getLast?_eq_some_iff.mp last
  rw [List.append_nil, Piece.sources, List.flatMap_append, List.flatMap_cons, ← Piece.sources,
    ← Piece.sources, Piece.source, written] at whole
  have ending : ∀ d ∈ (c :: Piece.sources spaces).getLast?, isBlank d = false := by
    apply last_visible_of_append (s := before ++ Piece.sources pieces ++ source)
    simpa [← whole] using visible
  exact List.cons_ne_nil c _
    (eq_nil_of_allBlank (List.forall_mem_cons.mpr ⟨blank, blanks⟩) ending)

theorem exists_getLast?_of_mapM {front : List (List Piece)} {last : List Piece}
    {kinds : List (List (Kind × Text))} (read : (front ++ [last]).mapM said = .ok kinds) :
    ∃ final, kinds.getLast? = some final ∧ said last = .ok final := by
  rw [List.mapM_append, List.mapM_cons, List.mapM_nil] at read
  cases first : front.mapM said with
  | error fault =>
      rw [first] at read
      cases read
  | ok results =>
      cases final : said last with
      | error fault =>
          rw [first, final] at read
          cases read
      | ok kinds =>
          rw [first, final] at read
          cases read
          exact ⟨kinds, List.getLast?_concat, rfl⟩

theorem reading_append_blanks {s v : Text} (blank : AllBlank v)
    (visible : ∀ c ∈ s.getLast?, isBlank c = false) (plain : ¬EndsInOwnBlank (s ++ v)) :
    reading (s ++ v) = reading s := by
  have cut := listCut_readPieces blank s visible
  generalize long : readPieces (s ++ v) = longList, short : readPieces s = shortList at cut
  cases cut with
  | fault fault => rw [reading_of_fault long, reading_of_fault short]
  | spaces front last each =>
      rw [reading_of_readPieces long, reading_of_readPieces short]
      exact mapM_said_congr front (said_congr (meaning_joinPieces_append_spaces each))
  | swallowing front last each ends named shorter =>
      exact absurd ⟨front, last, _, _, long, each, ends⟩ plain

theorem reading_ne_of_ownBlank {s v : Text} (blank : AllBlank v)
    (visible : ∀ c ∈ s.getLast?, isBlank c = false) (own : EndsInOwnBlank (s ++ v))
    {kinds : List (List (Kind × Text))} (read : reading (s ++ v) = .ok kinds) :
    reading s ≠ .ok kinds := by
  intro same
  have cut := listCut_readPieces blank s visible
  generalize long : readPieces (s ++ v) = longList, short : readPieces s = shortList at cut
  cases cut with
  | fault fault =>
      rw [reading_of_fault short] at same
      cases same
  | spaces front last each =>
      apply not_endsInOwnBlank visible
      rw [← endsInOwnBlank_iff, endsInOwnBlank, long] at own
      rw [← endsInOwnBlank_iff, endsInOwnBlank, short]
      simpa [rdropWhile_append_spaces each] using own
  | swallowing front last each ends named shorter =>
      cases shortList with
      | error fault =>
          rw [reading_of_fault short] at same
          cases same
      | ok groups =>
          obtain ⟨other, plain, value, rfl⟩ := shorter groups rfl
          rw [reading_of_readPieces long] at read
          rw [reading_of_readPieces short] at same
          obtain ⟨final, ended, first⟩ := exists_getLast?_of_mapM read
          obtain ⟨_, again, second⟩ := exists_getLast?_of_mapM same
          rw [ended] at again
          cases again
          have none : ∀ piece ∈ ([] : List Piece), piece.isSpace = true := by simp
          have meaning := getLast?_of_said named each first
          rw [getLast?_of_said plain none second] at meaning
          exact value (congrArg Prod.snd (Option.some.inj meaning))

theorem exists_reading_trim (t : Text) :
    ∃ s v, s ++ v = t ∧ AllBlank v ∧ (∀ c ∈ s.getLast?, isBlank c = false) ∧
      reading s = reading (trim t) := by
  obtain ⟨before, after, leading, trailing, whole⟩ := exists_trim t
  have trimmed := trimmed_trim t
  by_cases nothing : trim t = []
  · rw [nothing, List.nil_append] at whole
    rw [nothing]
    exact ⟨[], t, rfl, whole ▸ allBlank_append.mpr ⟨leading, trailing⟩, by simp, rfl⟩
  · refine ⟨before ++ trim t, after, by rw [List.append_assoc, whole], trailing, ?_,
      reading_blanks_append leading trimmed.first⟩
    rw [List.getLast?_append_of_ne_nil _ nothing]
    exact trimmed.last

/-- Trimming a list changes nothing that it says, if it does not end in a blank of a token's own. If
it does and can be read, trimming changes what it says. -/
theorem reading_trim (t : Text) :
    (¬EndsInOwnBlank t → reading (trim t) = reading t) ∧
      (EndsInOwnBlank t → ∀ selectors, Selector.parseList t = .ok selectors →
        reading (trim t) ≠ reading t) := by
  obtain ⟨s, v, rfl, blank, visible, same⟩ := exists_reading_trim t
  rw [← same]
  constructor
  · intro plain
    exact (reading_append_blanks blank visible plain).symm
  · intro own selectors read
    have said : reading (s ++ v) = .ok (selectors.map Selector.meaning) := by
      rw [reading, read]
      rfl
    rw [said]
    exact reading_ne_of_ownBlank blank visible own said

/-- Blanks around two selectors, and an escaped blank at the end of one. -/
theorem reading_trim_marks :
    (¬EndsInOwnBlank " .a > .b " ∧ reading (trim " .a > .b ") = reading " .a > .b ") ∧
      EndsInOwnBlank ".a\\ " ∧
      Selector.parseList ".a\\ " = .ok [⟨[⟨.className, "a ", ".a\\ "⟩]⟩] ∧
      reading (trim ".a\\ ") ≠ reading ".a\\ " := by
  have plain : ¬EndsInOwnBlank " .a > .b " := by decide +kernel
  have own : EndsInOwnBlank ".a\\ " := by decide +kernel
  have read : Selector.parseList ".a\\ " = .ok [⟨[⟨.className, "a ", ".a\\ "⟩]⟩] := by
    decide +kernel
  exact ⟨⟨plain, (reading_trim _).1 plain⟩, own, read, (reading_trim _).2 own _ read⟩

/-- Trimmed, a class that ends in an escaped blank ends in the backslash that escaped it. -/
theorem reading_trim_escape :
    reading ".a\\ " = .ok [[(.className, "a ")]] ∧ trim ".a\\ " = ".a\\".toList ∧
      reading (trim ".a\\ ") = .error (.unterminated .escape) := by
  decide +kernel

end ClassLint
