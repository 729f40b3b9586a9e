import ClassLint.Proofs.Chains
import ClassLint.Proofs.Continuation
import ClassLint.Proofs.Diagnosis
import ClassLint.Proofs.Levels

/-! Two selectors with a space between them. Where they meet, the space is the descendant
combinator, unless one of the two brings a combinator of its own; two combinators that meet are
refused. -/

namespace ClassLint

/-! ### The pieces of both -/

theorem joinPieces_of_merges {pieces following merged : List Piece}
    (merges : Merges pieces following merged) (after : Bool) (gap : Option Gap) :
    joinPieces after gap merged = joinPieces after gap (pieces ++ following) := by
  induction merges generalizing after gap with
  | apart following => rfl
  | blanks before behind following =>
      rw [List.singleton_append, joinPieces, joinPieces, joinPieces, addBlanks_addBlanks]
  | piece piece merges ih =>
      cases piece with
      | space blanks => exact ih after _
      | combinator combinator =>
          rw [List.cons_append, joinPieces, joinPieces]
          cases Gap.addCombinator combinator gap with
          | error fault => rfl
          | ok next => exact ih after _
      | token token =>
          rw [List.cons_append, joinPieces, joinPieces, ih, ih]

theorem exists_readPieces_space {t : Text} {group : List Piece} {others : List (List Piece)}
    (read : readPieces t = .ok (group :: others)) :
    ∃ spaced, readPieces (' ' :: t) = .ok (spaced :: others) ∧ ∀ after gap,
      joinPieces after gap spaced = joinPieces after (some (Gap.addBlanks [' '] gap)) group := by
  have space : AllBlank [' '] := by simp [AllBlank]; decide
  have blanks : AllBlank (t.takeWhile isBlank) := fun _ => List.mem_takeWhile_imp
  have visible := visible_dropWhile t
  have whole : t.takeWhile isBlank ++ t.dropWhile isBlank = t := List.takeWhile_append_dropWhile
  by_cases bare : t.takeWhile isBlank = []
  · rw [bare, List.nil_append] at whole
    rw [whole] at visible
    have single := readPieces_of_readsTo_single (reads_blanks (by simp) space visible)
    rw [read] at single
    exact ⟨.space [' '] :: group, single, fun _ _ => rfl⟩
  · have alone := readPieces_of_readsTo_single (reads_blanks bare blanks visible)
    have together := readPieces_of_readsTo_single
      (reads_blanks (by simp) (allBlank_append.mpr ⟨space, blanks⟩) visible)
    rw [List.append_assoc, whole] at together
    rw [whole, read] at alone
    cases rest : readPieces (t.dropWhile isBlank) with
    | error fault =>
        rw [rest] at alone
        cases alone
    | ok groups =>
        obtain ⟨first, more, rfl, -⟩ := exists_readsTo rest
        rw [rest] at alone together
        cases alone
        refine ⟨.space ([' '] ++ t.takeWhile isBlank) :: first, together, ?_⟩
        intro after gap
        rw [joinPieces, joinPieces, addBlanks_addBlanks]

/-! ### Where they meet -/

/-- What is joined of some pieces before the gap that still waits at their end. More pieces are
joined from there. -/
structure Waits (after : Bool) (gap : Option Gap) (pieces : List Piece) (tokens joined : List Token)
    (passed : Bool) (waiting : Option Gap) : Prop where
  tokens_eq : tokens = joined ++ Gap.closing waiting
  plain : ∀ token ∈ joined.getLast?, token.combinator? = none
  passed_of_joined : joined ≠ [] → passed = true
  passed_of_after : after = true → passed = true
  goesOn : ∀ following, joinPieces after gap (pieces ++ following) =
    (joinPieces passed waiting following).map (joined ++ ·)

theorem exists_waits {after : Bool} {gap : Option Gap} {pieces : List Piece} {tokens : List Token}
    (joins : Joins after gap pieces tokens)
    (wellFormed : ∀ piece ∈ pieces, piece.WellFormed)
    (uncommented : ∀ token ∈ tokens, token.isComment = false) :
    ∃ joined passed waiting, Waits after gap pieces tokens joined passed waiting := by
  induction joins with
  | closing after gap =>
      refine ⟨[], after, gap, rfl, by simp, by simp, id, ?_⟩
      intro following
      rw [List.nil_append]
      cases joinPieces after gap following <;> rfl
  | space joined ih =>
      rcases ih (List.forall_mem_cons.mp wellFormed).2 uncommented with
        ⟨done, passed, waiting, waits⟩
      exact ⟨done, passed, waiting, { waits with goesOn := waits.goesOn }⟩
  | @combinator after gap next combinator pieces tokens added joined ih =>
      rcases ih (List.forall_mem_cons.mp wellFormed).2 uncommented with
        ⟨done, passed, waiting, waits⟩
      refine ⟨done, passed, waiting, { waits with goesOn := ?_ }⟩
      intro following
      rw [List.cons_append, joinPieces, added]
      exact waits.goesOn following
  | @comment after gap token pieces tokens comment joined ih =>
      exact absurd comment (by simp [uncommented token List.mem_cons_self])
  | @token after gap token pieces tokens named joined ih =>
      have formed := List.forall_mem_cons.mp wellFormed
      have others : ∀ other ∈ tokens, other.isComment = false :=
        fun other member => uncommented other (by simp [member])
      rcases ih formed.2 others with ⟨done, passed, waiting, waits⟩
      have passes : passed = true := waits.passed_of_after rfl
      refine ⟨Gap.tokens after gap ++ token :: done, passed, waiting, ?_, ?_, fun _ => passes,
        fun _ => passes, ?_⟩
      · rw [waits.tokens_eq]
        simp
      · rw [List.getLast?_append_of_ne_nil _ (List.cons_ne_nil token done)]
        exact forall_getLast?_cons formed.1.2.1 waits.plain
      · intro following
        rw [List.cons_append, joinPieces, if_neg (by simp [named]), waits.goesOn following]
        cases joinPieces passed waiting following with
        | error fault => rfl
        | ok others => exact congrArg Except.ok (by simp)

theorem closing_of_found? {gap : Option Gap} (unfound : Gap.found? gap = none) :
    Gap.closing gap = [] := by
  rcases closing_eq_nil_or gap with nothing | ⟨combinator, raw, rfl⟩
  · exact nothing
  · cases unfound

/-- What some pieces are joined to behind a gap, if on their own they are joined to some tokens. -/
inductive Opens (pieces : List Piece) (tokens : List Token) : Prop where
  | token (plain : ∀ token ∈ tokens.head?, token.combinator? = none)
      (joined : ∀ passed (gap : Gap), ∃ raw, joinPieces passed (some gap) pieces =
        .ok (Gap.tokens passed (some ⟨gap.combinator?, raw⟩) ++ tokens))
  | combinator (combinator : Combinator) (written : Text) (rest : List Token)
      (same : tokens = .ofCombinator combinator written :: rest)
      (joined : ∀ passed (gap : Gap), gap.combinator? = none → ∃ raw,
        joinPieces passed (some gap) pieces = .ok (.ofCombinator combinator raw :: rest))
      (refused : ∀ passed (gap : Gap), gap.combinator? ≠ none →
        joinPieces passed (some gap) pieces = .error (.unexpected combinator.mark))

theorem exists_joinPieces_combinator {after : Bool} {combinator : Combinator} {raw : Text}
    {pieces : List Piece} {tokens : List Token}
    (joins : Joins after (some ⟨some combinator, raw⟩) pieces tokens)
    (uncommented : ∀ token ∈ tokens, token.isComment = false) :
    ∃ written rest, tokens = .ofCombinator combinator written :: rest ∧ ∀ passed before, ∃ other,
      joinPieces passed (some ⟨some combinator, before⟩) pieces =
        .ok (.ofCombinator combinator other :: rest) := by
  generalize waiting : some (Gap.mk (some combinator) raw) = gap at joins
  induction joins generalizing raw with
  | closing after gap =>
      subst waiting
      exact ⟨raw, [], rfl, fun _ before => ⟨before, rfl⟩⟩
  | @space after gap blanks pieces tokens joined ih =>
      subst waiting
      rcases ih uncommented rfl with ⟨written, rest, same, behind⟩
      exact ⟨written, rest, same, fun passed before => behind passed (before ++ blanks)⟩
  | combinator added joined ih =>
      subst waiting
      cases added
  | @comment after gap token pieces tokens comment joined ih =>
      exact absurd comment (by simp [uncommented token List.mem_cons_self])
  | @token after gap token pieces tokens named joined ih =>
      subst waiting
      refine ⟨raw, token :: tokens, rfl, fun passed before => ⟨before, ?_⟩⟩
      rw [joinPieces, if_neg (by simp [named]), joinPieces_of_joins joined]
      rfl

/-- Behind a gap only the first gap of some pieces can change. -/
theorem opens_of_joins {gap : Option Gap} {pieces : List Piece} {tokens : List Token}
    (joins : Joins false gap pieces tokens) (unfound : Gap.found? gap = none)
    (nonempty : tokens ≠ []) (wellFormed : ∀ piece ∈ pieces, piece.WellFormed)
    (uncommented : ∀ token ∈ tokens, token.isComment = false) : Opens pieces tokens := by
  induction pieces generalizing gap with
  | nil =>
      cases joins
      exact absurd (closing_of_found? unfound) nonempty
  | cons piece pieces ih =>
      have formed := List.forall_mem_cons.mp wellFormed
      cases joins with
      | @space _ _ blanks _ _ joined =>
          have still := (found?_addBlanks blanks gap).trans unfound
          -- Blanks change how the gap is spelled and not what is found in it.
          cases ih joined still formed.2 with
          | token plain joined =>
              exact .token plain fun passed gap => joined passed ⟨gap.combinator?, gap.raw ++ blanks⟩
          | combinator combinator written rest same joined refused =>
              exact .combinator combinator written rest same
                (fun passed gap => joined passed ⟨gap.combinator?, gap.raw ++ blanks⟩)
                (fun passed gap => refused passed ⟨gap.combinator?, gap.raw ++ blanks⟩)
      | @combinator _ _ next combinator _ _ added joined =>
          rw [addCombinator_of_found?, unfound] at added
          cases added
          rcases exists_joinPieces_combinator joined uncommented with ⟨written, rest, same, behind⟩
          refine .combinator combinator written rest same ?_ ?_
          · intro passed gap unfound
            rw [joinPieces, addCombinator_of_found?, show Gap.found? (some gap) = none from unfound]
            exact behind passed _
          · intro passed gap found
            rcases Option.ne_none_iff_exists'.mp found with ⟨earlier, found⟩
            rw [joinPieces, addCombinator_of_found?,
              show Gap.found? (some gap) = some earlier from found]
      | @comment _ _ token _ _ comment joined =>
          exact absurd comment (by simp [uncommented token List.mem_cons_self])
      | @token _ _ token _ tokens named joined =>
          rw [gapTokens_false, closing_of_found? unfound, List.nil_append]
          refine .token ?_ fun passed gap => ⟨gap.raw, ?_⟩
          · intro first same
            cases same
            exact formed.1.2.1
          · rw [joinPieces, if_neg (by simp [named]), joinPieces_of_joins joined]
            rfl

/-! ### Selectors that meet -/

namespace Selector

def startsWithCombinator (selector : Selector) : Bool := selector.tokens.head?.any Token.joins

def endsWithCombinator (selector : Selector) : Bool := selector.tokens.getLast?.any Token.joins

theorem isComment_eq_false {selector : Selector} (uncommented : selector.comments = []) :
    ∀ token ∈ selector.tokens, token.isComment = false := by
  intro token member
  simpa using List.filter_eq_nil_iff.mp uncommented token member

theorem startsWithCombinator_eq_false {selector : Selector}
    (plain : ∀ token ∈ selector.tokens.head?, token.combinator? = none) :
    selector.startsWithCombinator = false := by
  rw [startsWithCombinator, Option.any_eq_false]
  intro token first
  exact joins_eq_false (plain token first)

theorem startsWithCombinator_of_ofCombinator {selector : Selector} {combinator : Combinator}
    {raw : Text} {rest : List Token} (same : selector.tokens = .ofCombinator combinator raw :: rest) :
    selector.startsWithCombinator = true := by
  rw [startsWithCombinator, same]
  rfl

end Selector

theorem Waits.endsWithCombinator {selector : Selector} {after passed : Bool}
    {gap waiting : Option Gap} {pieces : List Piece} {joined : List Token}
    (waits : Waits after gap pieces selector.tokens joined passed waiting) :
    selector.endsWithCombinator = (Gap.found? waiting).isSome := by
  rw [Selector.endsWithCombinator, waits.tokens_eq]
  have plain : joined.getLast?.any Token.joins = false := by
    rw [Option.any_eq_false]
    intro token last
    exact joins_eq_false (waits.plain token last)
  rcases waiting with _ | ⟨_ | combinator, raw⟩
  · simpa [Gap.closing, Gap.found?] using plain
  · simpa [Gap.closing, Gap.found?] using plain
  · simp [Gap.closing, Gap.found?, Token.joins, Token.ofCombinator, Token.combinator?]

theorem exists_pieces_of_single {t : Text} {selector : Selector}
    (read : Selector.parseList t = .ok [selector]) :
    ∃ pieces, readPieces t = .ok [pieces] ∧ Joins false none pieces selector.tokens ∧
      selector.tokens ≠ [] ∧ ∀ piece ∈ pieces, piece.WellFormed := by
  rcases exists_groups_of_parseList read with ⟨groups, found, each⟩
  rcases List.forall₂_cons_right_iff.mp each with ⟨pieces, others, first, none, rfl⟩
  cases none
  rcases first with ⟨⟨s, final, reads⟩, join⟩
  rcases ofPieces_eq_ok_iff_joins.mp join with ⟨joins, nonempty⟩
  exact ⟨pieces, found, joins, nonempty, reads.wellFormed⟩

theorem parseList_of_single {t : Text} {pieces : List Piece} {tokens : List Token}
    (read : readPieces t = .ok [pieces]) (joined : joinPieces false none pieces = .ok tokens)
    (nonempty : tokens ≠ []) : Selector.parseList t = .ok [⟨tokens⟩] :=
  parseList_eq_ok_iff.mpr ⟨_, read, .cons (ofPieces_eq_ok_iff.mpr ⟨joined, nonempty⟩) .nil⟩

theorem parseList_of_single_fault {t : Text} {pieces : List Piece} {fault : SelectorFault}
    (read : readPieces t = .ok [pieces]) (refused : joinPieces false none pieces = .error fault) :
    Selector.parseList t = .error ⟨fault, t⟩ := by
  rw [Selector.parseList, Selector.readList, read]
  simp only [List.mapM_cons, Selector.ofPieces, refused]
  rfl

theorem exists_merges_of_single {last first : List Piece}
    {whole : Except SelectorFault (List (List Piece))}
    (goesOn : GoesOn [last] (.ok [first]) whole) :
    ∃ merged, Merges last first merged ∧ whole = .ok [merged] := by
  generalize alone : [last] = groups at goesOn
  cases goesOn with
  | @groups _ _ merged front _ merges =>
      rcases List.append_eq_singleton_iff.mp alone.symm with ⟨rfl, same⟩ | ⟨_, none⟩
      · cases same
        exact ⟨merged, merges, rfl⟩
      · cases none

/-- What two texts with a space between them are joined to: first what was joined of the one, then
the pieces of the other behind what waits of the one and the space. -/
theorem exists_junction {parent child : Text} {first second : Selector}
    (parentRead : Selector.parseList parent = .ok [first])
    (childRead : Selector.parseList child = .ok [second])
    (firstPlain : first.comments = []) (secondPlain : second.comments = []) :
    ∃ before after merged joined passed waiting,
      Waits false none before first.tokens joined passed waiting ∧ Opens after second.tokens ∧
      readPieces (joinDescendant parent child) = .ok [merged] ∧
      joinPieces false none merged =
        (joinPieces passed (some (Gap.addBlanks [' '] waiting)) after).map (joined ++ ·) := by
  rcases exists_pieces_of_single parentRead with ⟨before, parentPieces, joins, -, formed⟩
  rcases exists_waits joins formed (Selector.isComment_eq_false firstPlain) with
    ⟨joined, passed, waiting, waits⟩
  rcases exists_pieces_of_single childRead with ⟨after, childPieces, joins, nonempty, formed⟩
  have opens := opens_of_joins joins rfl nonempty formed (Selector.isComment_eq_false secondPlain)
  rcases exists_readPieces_space childPieces with ⟨spaced, spacedPieces, behind⟩
  have goesOn := goesOn_readPieces parentPieces child
  rw [spacedPieces] at goesOn
  rcases exists_merges_of_single goesOn with ⟨merged, merges, whole⟩
  refine ⟨before, after, merged, joined, passed, waiting, waits, opens, whole, ?_⟩
  calc joinPieces false none merged = joinPieces false none (before ++ spaced) :=
        joinPieces_of_merges merges false none
    _ = (joinPieces passed waiting spaced).map (joined ++ ·) := waits.goesOn spaced
    _ = (joinPieces passed (some (Gap.addBlanks [' '] waiting)) after).map (joined ++ ·) := by
        rw [behind]

section Meeting

variable {parent child : Text} {first second : Selector}
  (parentRead : Selector.parseList parent = .ok [first])
  (childRead : Selector.parseList child = .ok [second])
  (firstPlain : first.comments = []) (secondPlain : second.comments = [])
include parentRead childRead firstPlain secondPlain

theorem parseList_of_neither (ends : first.endsWithCombinator = false)
    (starts : second.startsWithCombinator = false) :
    ∃ raw, Selector.parseList (joinDescendant parent child) =
      .ok [⟨first.tokens ++ .ofCombinator .descendant raw :: second.tokens⟩] := by
  rcases exists_pieces_of_single parentRead with ⟨_, _, _, nonempty, _⟩
  rcases exists_junction parentRead childRead firstPlain secondPlain with
    ⟨before, after, merged, joined, passed, waiting, waits, opens, read, meet⟩
  rw [waits.endsWithCombinator, Option.isSome_eq_false_iff, Option.isNone_iff_eq_none] at ends
  have unfound := (found?_addBlanks [' '] waiting).trans ends
  have whole : first.tokens = joined := by
    rw [waits.tokens_eq, closing_of_found? ends, List.append_nil]
  have passes : passed = true := waits.passed_of_joined (whole ▸ nonempty)
  cases opens with
  | token plain behind =>
      rcases behind passed (Gap.addBlanks [' '] waiting) with ⟨raw, behind⟩
      rw [show (Gap.addBlanks [' '] waiting).combinator? = none from unfound, passes] at behind
      refine ⟨raw, parseList_of_single read ?_ (by simp)⟩
      rw [meet, passes, behind, whole]
      rfl
  | combinator combinator raw rest same _ _ =>
      rw [Selector.startsWithCombinator_of_ofCombinator same] at starts
      cases starts

theorem parseList_of_one (one : first.endsWithCombinator ≠ second.startsWithCombinator) :
    ∃ joined, Selector.parseList (joinDescendant parent child) = .ok [joined] ∧
      joined.meaning = first.meaning ++ second.meaning := by
  rcases exists_junction parentRead childRead firstPlain secondPlain with
    ⟨before, after, merged, joined, passed, waiting, waits, opens, read, meet⟩
  have found := found?_addBlanks [' '] waiting
  cases opens with
  | token plain behind =>
      rw [Selector.startsWithCombinator_eq_false plain, ne_eq, Bool.not_eq_false,
        waits.endsWithCombinator, Option.isSome_iff_exists] at one
      rcases one with ⟨combinator, one⟩
      rcases behind passed (Gap.addBlanks [' '] waiting) with ⟨raw, behind⟩
      rw [show (Gap.addBlanks [' '] waiting).combinator? = some combinator from
        found.trans one] at behind
      refine ⟨⟨joined ++ .ofCombinator combinator raw :: second.tokens⟩, ?_, ?_⟩
      · apply parseList_of_single read
        · rw [meet, behind]
          rfl
        · simp
      · rw [Selector.meaning, Selector.meaning, waits.tokens_eq, List.map_append, List.map_append,
          meaning_closing, one, List.append_assoc]
        rfl
  | combinator combinator written rest same behind _ =>
      rw [Selector.startsWithCombinator_of_ofCombinator same, ne_eq, Bool.not_eq_true,
        waits.endsWithCombinator, Option.isSome_eq_false_iff, Option.isNone_iff_eq_none] at one
      rcases behind passed (Gap.addBlanks [' '] waiting) (found.trans one) with ⟨raw, behind⟩
      refine ⟨⟨joined ++ .ofCombinator combinator raw :: rest⟩, ?_, ?_⟩
      · apply parseList_of_single read
        · rw [meet, behind]
          rfl
        · simp
      · rw [Selector.meaning, Selector.meaning, Selector.meaning, waits.tokens_eq,
          closing_of_found? one, List.append_nil, same, List.map_append]
        rfl

theorem parseList_of_both (ends : first.endsWithCombinator = true)
    (starts : second.startsWithCombinator = true) :
    ∃ combinator raw rest, second.tokens = .ofCombinator combinator raw :: rest ∧
      Selector.parseList (joinDescendant parent child) =
        .error ⟨.unexpected combinator.mark, joinDescendant parent child⟩ := by
  rcases exists_junction parentRead childRead firstPlain secondPlain with
    ⟨before, after, merged, joined, passed, waiting, waits, opens, read, meet⟩
  rw [waits.endsWithCombinator, ← found?_addBlanks [' '] waiting] at ends
  have found : (Gap.addBlanks [' '] waiting).combinator? ≠ none := Option.ne_none_iff_isSome.mpr ends
  cases opens with
  | token plain _ =>
      rw [Selector.startsWithCombinator_eq_false plain] at starts
      cases starts
  | combinator combinator raw rest same _ refused =>
      refine ⟨combinator, raw, rest, same, parseList_of_single_fault read ?_⟩
      rw [meet, refused passed _ found]
      rfl

end Meeting

/-! ### Style rules below a parent -/

theorem report_of_diagnosed {rule : Rule} {placements : List Placement} {placement : Placement}
    {diagnostic : Diagnostic} (member : placement ∈ placements)
    (diagnosed : rule.diagnosisAt? placement = some diagnostic) :
    match rule.report placements with
    | .ok diagnostics => diagnostic ∈ diagnostics
    | .error error =>
      ∃ other ∈ placements, other ≠ placement ∧ unreadable? other = some error := by
  rw [Rule.report]
  cases search : placements.findSome? unreadable? with
  | none => exact List.mem_filterMap.mpr ⟨placement, member, diagnosed⟩
  | some error =>
      rcases List.exists_of_findSome?_eq_some search with ⟨other, inside, unread⟩
      refine ⟨other, inside, ?_, unread⟩
      intro same
      rw [same, unreadable?] at unread
      rw [Rule.diagnosisAt?] at diagnosed
      cases outcome : standaloneSelectors placement with
      | ok selectors =>
          rw [outcome] at unread
          cases unread
      | error other =>
          rw [outcome] at diagnosed
          cases diagnosed

theorem diagnosisAt?_of_descendant {placement : Placement} {selector : Selector}
    (read : standaloneSelectors placement = .ok [selector])
    (descendant : selector.hasDescendant = true) :
    Rule.noDescendantCombinator.diagnosisAt? placement =
      some (.about RuleName.noDescendantCombinator.text (descendantMessage selector)
        placement.1) := by
  have triggered : Rule.noDescendantCombinator.triggeredBy selector = true := descendant
  rw [Rule.diagnosisAt?, read, Except.toOption, Option.bind_some, Rule.diagnosis?,
    List.find?_cons_of_pos triggered]
  rfl

theorem check_of_descendant {sheet : Sheet} {placement : Placement} {journal later : Journal}
    {parent : Text} {others : List Text} {joined : Selector} (member : placement ∈ sheet.placements)
    (plain : hasNesting placement.1.selector = false)
    (nearest : nearestResolutions journal placement.2 = some (parent :: others))
    (read : Selector.parseList (joinDescendant parent placement.1.selector) = .ok [joined])
    (descendant : joined.hasDescendant = true) :
    match (Rule.noDescendantCombinator.check sheet).run.answer later with
    | .ok diagnostics => .about RuleName.noDescendantCombinator.text (descendantMessage joined)
        placement.1 ∈ diagnostics
    | .error error => ∃ other ∈ sheet.placements,
        other ≠ placement ∧ unreadable? other = some error := by
  have standing : standaloneSelectors placement = .ok [joined] := by
    rw [standaloneSelectors, standaloneText_of_nearest nearest, placeBelow_of_plain _ plain]
    exact read
  rw [answers_check .noDescendantCombinator sheet later]
  exact report_of_diagnosed member (diagnosisAt?_of_descendant standing descendant)

/-- Two selectors without comments, joined by a space. Without combinators where they meet, the
space is the descendant combinator and the levels of the one come before those of the other; then a
style rule with the one, below the other, is reported, or the check ends with the error of another
style rule. With one combinator there the space is nothing of its own, and with two the whole is
refused. -/
theorem parseList_joinDescendant (parent child : Text) (first second : Selector)
    (parentRead : Selector.parseList parent = .ok [first])
    (childRead : Selector.parseList child = .ok [second])
    (firstPlain : first.comments = []) (secondPlain : second.comments = []) :
    (first.endsWithCombinator = false → second.startsWithCombinator = false →
      ∃ joined, Selector.parseList (parent ++ ' ' :: child) = .ok [joined] ∧
        joined.meaning = first.meaning ++ Combinator.descendant.meaning :: second.meaning ∧
        joined.levels = first.levels ++ second.levels ∧
        ('&' ∉ child → ∀ (sheet : Sheet) (journal later : Journal) (others : List Text),
          ∀ placement ∈ sheet.placements, placement.1.selector = child →
            nearestResolutions journal placement.2 = some (parent :: others) →
            match (Rule.noDescendantCombinator.check sheet).run.answer later with
            | .ok diagnostics => ⟨"rscss/no-descendant-combinator".toList,
                "Descendant combinator not allowed: ".toList ++ cited joined.text,
                child, placement.1.position⟩ ∈ diagnostics
            | .error error => ∃ other ∈ sheet.placements,
                other ≠ placement ∧ unreadable? other = some error)) ∧
    (first.endsWithCombinator ≠ second.startsWithCombinator →
      ∃ joined, Selector.parseList (parent ++ ' ' :: child) = .ok [joined] ∧
        joined.meaning = first.meaning ++ second.meaning) ∧
    (first.endsWithCombinator = true → second.startsWithCombinator = true →
      ∃ combinator raw rest, second.tokens = .ofCombinator combinator raw :: rest ∧
        Selector.parseList (parent ++ ' ' :: child) =
          .error ⟨.unexpected combinator.mark, parent ++ ' ' :: child⟩) := by
  refine ⟨?_, parseList_of_one parentRead childRead firstPlain secondPlain,
    parseList_of_both parentRead childRead firstPlain secondPlain⟩
  intro ends starts
  rcases parseList_of_neither parentRead childRead firstPlain secondPlain ends starts with
    ⟨raw, read⟩
  refine ⟨_, read, ?_, ?_, ?_⟩
  · rw [Selector.meaning, List.map_append]
    rfl
  · rcases exists_pieces_of_single parentRead with ⟨_, _, _, nonempty, _⟩
    rcases exists_pieces_of_single childRead with ⟨_, _, _, visible, _⟩
    rw [levels_eq_levelsIn nonempty, levels_eq_levelsIn visible, levels_eq_levelsIn (by simp)]
    exact levelsIn_append_descends rfl _ _
  · intro unnested sheet journal later others placement member same nearest
    subst same
    have plain : hasNesting placement.1.selector = false :=
      Bool.eq_false_iff.mpr (mt (hasNesting_iff _).mp unnested)
    apply check_of_descendant member plain nearest read
    simp [Selector.hasDescendant, Token.ofCombinator, Token.combinator?]

def nestedLinks : Sheet :=
  [.rule ⟨".my-list>li", .start⟩ [.rule ⟨"a~.icon", .start⟩ []]]

theorem parseList_joinDescendant_nested :
    ∃ joined, Selector.parseList ".my-list>li a~.icon" = .ok [joined] ∧
      joined.levels.length = 3 ∧
      ∃ diagnostics,
        (Rule.noDescendantCombinator.check nestedLinks).run.answer .empty = .ok diagnostics ∧
        ⟨"rscss/no-descendant-combinator".toList,
          "Descendant combinator not allowed: ".toList ++ cited joined.text, "a~.icon",
          .start⟩ ∈ diagnostics := by
  have parentRead : Selector.parseList ".my-list>li" =
      .ok [⟨[⟨.className, "my-list", ".my-list"⟩, ⟨.combinator .child, ">", ">"⟩,
        ⟨.tag, "li", "li"⟩]⟩] := by decide +kernel
  have childRead : Selector.parseList "a~.icon" =
      .ok [⟨[⟨.tag, "a", "a"⟩, ⟨.combinator .subsequentSibling, "~", "~"⟩,
        ⟨.className, "icon", ".icon"⟩]⟩] := by decide +kernel
  have readable : ∀ placement ∈ nestedLinks.placements, unreadable? placement = none := by
    decide +kernel
  have member : (⟨"a~.icon", .start⟩, nestedLinks) ∈ nestedLinks.placements := by
    simp [nestedLinks, Sheet.placements, Node.placementsIn, Node.placements]
  rcases (parseList_joinDescendant _ _ _ _ parentRead childRead rfl rfl).1 (by decide) (by decide)
    with ⟨joined, read, -, levels, reported⟩
  have found := reported (by decide) nestedLinks .empty .empty [] _ member rfl (by decide +kernel)
  refine ⟨joined, read, ?_, ?_⟩
  · rw [levels]
    decide
  · split at found
    · rename_i diagnostics linted
      exact ⟨diagnostics, linted, found⟩
    · rcases found with ⟨other, inside, -, unread⟩
      rw [readable other inside] at unread
      cases unread

def interruptedLinks : Sheet :=
  [.rule ⟨".a", .start⟩ [.rule ⟨".b", .start⟩ []], .rule ⟨"50%", .start⟩ []]

/-- The check ends with the error of the last style rule and says nothing of the one below. -/
theorem check_interrupted :
    Selector.parseList ".a" = .ok [⟨[⟨.className, "a", ".a"⟩]⟩] ∧
      Selector.parseList ".b" = .ok [⟨[⟨.className, "b", ".b"⟩]⟩] ∧
      (interruptedLinks.placements.map fun placement =>
        (placement.1.selector, nearestResolutions .empty placement.2)) =
          [⟨".a", none⟩, ⟨".b", some [".a"]⟩, ⟨"50%", none⟩] ∧
      (Rule.noDescendantCombinator.check interruptedLinks).run.answer .empty =
        .error ⟨.unexpected '5', "50%"⟩ := by
  decide +kernel

end ClassLint
