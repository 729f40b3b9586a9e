import ClassLint.Proofs.Places
import ClassLint.Proofs.Strides

/-! Where faults stand. A source that cannot be read is refused with a fault and a position, and the
position is where the source has what the fault is about: the brace, the quote, the bracket or the
comment that is not closed, or the word that says nothing. -/

namespace ClassLint

/-- What stands where a fault is reported. -/
def SheetFault.ShownBy (dialect : Dialect) : SheetFault → Text → Prop
  | .unclosedBlock, t | .missingSelector, t => t.head? = some '{'
  | .unexpectedBrace, t => t.head? = some '}'
  | .unclosedString, t => ∃ quote ∈ t.head?, isQuote quote = true
  | .unclosedComment, t => ['/', '*'] <+: t ∧ ¬['*', '/'] <:+: t.drop 2
  | .unclosedBracket bracket, t =>
    (bracket = '(' ∨ bracket = '[') ∧ t.head? = some bracket ∨
      bracket = '{' ∧ dialect = .scss ∧ ['#', '{'] <+: t
  | .unknownWord word, t => word ≠ [] ∧ (∀ c ∈ word, isBlank c = false) ∧ word <+: t

theorem SheetFault.not_shownBy_nil (dialect : Dialect) (fault : SheetFault) :
    ¬fault.ShownBy dialect [] := by
  cases fault <;> simp +contextual [ShownBy]

/-- The source can be cut where an error is reported, and what follows shows its fault. -/
def SheetError.Founded (dialect : Dialect) (source : Text) (error : SheetError) : Prop :=
  ∃ before after, before ++ after = source ∧ error.position = Position.start.advance before ∧
    error.fault.ShownBy dialect after

/-! ### Statements -/

theorem not_infix_of_takeComment {t : Text} (unclosed : takeComment t = none) :
    ¬['*', '/'] <:+: t := by
  fun_induction takeComment t
  case case1 => simp
  case case2 => cases unclosed
  case case3 c rest other ih =>
    rw [List.infix_cons_iff, not_or]
    refine ⟨?_, ih (Option.map_eq_none_iff.mp unclosed)⟩
    rw [List.cons_prefix_cons]
    rintro ⟨rfl, tail, rfl⟩
    exact other tail rfl rfl

theorem shown_of_nextStep {dialect : Dialect} {brackets : List OpenBracket} {position : Position}
    {c : Char} {rest : Text} {error : SheetError}
    (failed : nextStep dialect brackets position c rest = .error error) :
    error.position = position ∧ error.fault.ShownBy dialect (c :: rest) := by
  unfold nextStep at failed
  split at failed
  · split at failed
    · cases failed
      exact ⟨rfl, '"', rfl, by decide⟩
    · cases failed
  · split at failed
    · cases failed
      exact ⟨rfl, '\'', rfl, by decide⟩
    · cases failed
  · rename_i body
    split at failed
    · rename_i unclosed
      cases failed
      exact ⟨rfl, List.prefix_append ['/', '*'] body, not_infix_of_takeComment unclosed⟩
    · cases failed
  · cases failed
  · iterate 4
      split at failed
      · cases failed
    cases failed

theorem shown_of_open {dialect : Dialect} {brackets : List OpenBracket} {position : Position}
    {t : Text} {step : Step} (advances : Advances dialect brackets position t step)
    {bracket : OpenBracket} (member : bracket ∈ step.brackets) :
    bracket ∈ brackets ∨ bracket.position = position ∧
      (SheetFault.unclosedBracket bracket.mark).ShownBy dialect t := by
  cases advances with
  | interpolation scss rest =>
      rcases List.mem_cons.mp member with rfl | member
      · exact .inr ⟨rfl, .inr ⟨rfl, scss, List.prefix_append ['#', '{'] rest⟩⟩
      · exact .inl member
  | opening opens rest =>
      rcases List.mem_cons.mp member with rfl | member
      · exact .inr ⟨rfl, .inl ⟨by simpa [isOpening] using opens, rfl⟩⟩
      · exact .inl member
  | closing closes rest => exact .inl (List.mem_of_mem_tail member)
  | quoted | commented | escaped | dropped | character => exact .inl member

theorem founded_of_readPrelude {dialect : Dialect} {brackets : List OpenBracket}
    {position : Position} {source before t : Text} {error : SheetError}
    (whole : before ++ t = source) (counted : position = Position.start.advance before)
    (founded : ∀ bracket ∈ brackets,
      SheetError.Founded dialect source ⟨.unclosedBracket bracket.mark, bracket.position⟩)
    (failed : readPrelude dialect brackets position t = .error error) :
    error.Founded dialect source := by
  fun_induction readPrelude dialect brackets position t generalizing before
  case case1 => cases failed
  case case2 bracket others =>
    cases failed
    exact founded bracket List.mem_cons_self
  case case3 => cases failed
  case case4 brackets position c rest inside other found =>
    cases failed
    obtain ⟨placed, shown⟩ := shown_of_nextStep found
    exact ⟨before, c :: rest, whole, placed.trans counted, shown⟩
  case case5 brackets position c rest inside step found _ _ ih =>
    have next : before ++ step.taken ++ step.rest = source := by
      rw [List.append_assoc, nextStep_append found, whole]
    apply ih next
    · rw [Position.advance_append, ← counted]
    · intro bracket member
      rcases shown_of_open (advances_of_nextStep found) member with earlier | ⟨placed, shown⟩
      · exact founded bracket earlier
      · exact ⟨before, c :: rest, whole, placed.trans counted, shown⟩
    · exact map_eq_error_iff.mp failed

/-! ### The first word of a statement -/

theorem head?_of_dropped {dialect : Dialect} {brackets : List OpenBracket} {position : Position}
    {c : Char} {rest : Text} {step : Step}
    (read : nextStep dialect brackets position c rest = .ok step) (dropped : step.kept = false) :
    ∀ d ∈ step.rest.head?, d = '\n' := by
  have line (t : Text) : ∀ d ∈ (t.dropWhile (· ≠ '\n')).head?, d = '\n' := by
    intro d first
    simpa using not_of_head?_dropWhile (fun d : Char => decide (d ≠ '\n')) t first
  unfold nextStep at read
  split at read
  case h_5 =>
    split at read
    · cases read
      exact line rest
    iterate 3
      split at read
      · cases read
        cases dropped
    cases read
    cases dropped
  case h_4 =>
    cases read
    cases dropped
  all_goals
    split at read
    · cases read
    · cases read
      cases dropped

def isVisible (c : Char) : Bool := !isBlank c

theorem takeWhile_isPrefix_append (s t : Text) :
    s.takeWhile isVisible <+: (s ++ t).takeWhile isVisible := by
  rw [List.takeWhile_append]
  split
  · exact (List.takeWhile_prefix isVisible).trans (List.prefix_append s _)
  · exact List.prefix_rfl

theorem takeWhile_append_isPrefix {s t u : Text} (start : t.takeWhile isVisible <+: u) :
    (s ++ t).takeWhile isVisible <+: s ++ u := by
  rw [List.takeWhile_append]
  split
  · exact (List.prefix_append_right_inj s).mpr start
  · exact (List.takeWhile_prefix isVisible).trans (List.prefix_append s u)

/-- The first run of a statement that is not blank is written in the source as it is kept: what is
dropped ends at a line feed. -/
theorem takeWhile_text_isPrefix {dialect : Dialect} {brackets : List OpenBracket}
    {position : Position} {t : Text} {prelude : Prelude}
    (read : readPrelude dialect brackets position t = .ok prelude) :
    prelude.text.takeWhile isVisible <+: t := by
  fun_induction readPrelude dialect brackets position t generalizing prelude
  case case1 =>
    cases read
    exact List.prefix_rfl
  case case2 => cases read
  case case3 =>
    cases read
    exact List.nil_prefix
  case case4 => cases read
  case case5 step found _ _ ih =>
    obtain ⟨tail, following, rfl⟩ := exists_of_map_eq_ok read
    have start := ih following
    split
    · rw [← nextStep_append found]
      exact takeWhile_append_isPrefix start
    · rename_i dropped
      have feed := head?_of_dropped found (by simpa using dropped)
      cases run : tail.text.takeWhile isVisible with
      | nil => exact List.nil_prefix
      | cons d run' =>
          rw [run] at start
          obtain ⟨after, whole⟩ := start
          have first : step.rest.head? = some d := by rw [← whole]; rfl
          have visible : isVisible d = true := by
            apply List.mem_takeWhile_imp (l := tail.text)
            rw [run]
            exact List.mem_cons_self
          rw [feed d first] at visible
          cases visible

theorem head?_text {dialect : Dialect} {position : Position} {c : Char} {rest : Text}
    {prelude : Prelude} (plain : dialect = .scss → startsLineComment (c :: rest) = false)
    (read : readPrelude dialect [] position (c :: rest) = .ok prelude) :
    ∀ d ∈ prelude.text.head?, d = c := by
  unfold readPrelude at read
  split at read
  · cases read
    simp
  · split at read
    · cases read
    · rename_i step found
      obtain ⟨tail, -, rfl⟩ := exists_of_map_eq_ok read
      have kept : step.kept = true := nextStep_kept_of_no_comment plain found
      have whole := congrArg List.head? (nextStep_append found)
      rw [List.head?_append_of_ne_nil _ (nextStep_taken_ne_nil found)] at whole
      rw [kept, if_pos rfl, List.head?_append_of_ne_nil _ (nextStep_taken_ne_nil found), whole]
      simp

theorem shown_of_firstWord {dialect : Dialect} {s t : Text} (first : StartsVisibly s)
    (start : s.takeWhile isVisible <+: t) :
    (SheetFault.unknownWord (firstWord s)).ShownBy dialect t := by
  obtain ⟨c, head, visible⟩ := first
  obtain ⟨rest, rfl⟩ := List.head?_eq_some_iff.mp head
  have word : firstWord (c :: rest) = (c :: rest).takeWhile isVisible := by
    rw [firstWord, trimStart, List.dropWhile_cons_of_neg (by simp [visible])]
    rfl
  rw [word]
  refine ⟨by simp [isVisible, visible], ?_, start⟩
  intro d member
  simpa [isVisible] using List.mem_takeWhile_imp member

/-! ### Events -/

/-- The error that an entry of the events is or may lead to: a block may stay open, a brace may
close nothing, and a statement may say nothing. -/
def blame? : Except SheetError Event → Option SheetError
  | .error error => some error
  | .ok (.comment _) => none
  | .ok (.opening _ _ brace) => some ⟨.unclosedBlock, brace⟩
  | .ok (.statement t position) => some ⟨.unknownWord (firstWord t), position⟩
  | .ok (.closing position) => some ⟨.unexpectedBrace, position⟩

theorem eq_of_ofStatement_error {t : Text} {position : Position} {error : SheetError}
    (failed : Node.ofStatement t position = .error error) :
    error = ⟨.unknownWord (firstWord t), position⟩ := by
  unfold Node.ofStatement at failed
  split at failed
  · cases failed
  · rw [map_eq_error_iff, Declaration.parse] at failed
    split at failed
    · cases failed
      rfl
    · cases failed

def Frame.blame (frame : Frame) : SheetError := ⟨.unclosedBlock, frame.brace⟩

/-- What fails is blamed on a block that is open already or on an event that follows. -/
theorem mem_blames_of_buildNodes {frames : List Frame} {done : List Node}
    {entries : List (Except SheetError Event)} {error : SheetError}
    (failed : buildNodes frames done entries = .error error) :
    error ∈ frames.map Frame.blame ++ entries.filterMap blame? := by
  fun_induction buildNodes frames done entries
  case case1 => cases failed
  case case2 =>
    cases failed
    exact List.mem_cons_self
  case case3 =>
    cases failed
    exact List.mem_append_right _ List.mem_cons_self
  case case4 ih => exact ih failed
  case case5 ih => exact List.perm_middle.mem_iff.mpr (ih failed)
  case case6 read =>
    cases failed
    rw [eq_of_ofStatement_error read]
    exact List.mem_append_right _ List.mem_cons_self
  case case7 ih =>
    apply List.perm_middle.mem_iff.mpr
    exact List.mem_cons_of_mem _ (ih failed)
  case case8 =>
    cases failed
    exact List.mem_cons_self
  case case9 ih =>
    apply List.perm_middle.mem_iff.mpr
    exact List.mem_cons_of_mem _ (List.mem_cons_of_mem _ (ih failed))

theorem blame?_of_ended {position : Position} {t : Text} {event : Event} {error : SheetError}
    (trimmed : Trimmed t) (found : event ∈ statementStep.ended position t)
    (blamed : blame? (.ok event) = some error) :
    StartsVisibly t ∧ error = ⟨.unknownWord (firstWord t), position⟩ := by
  unfold statementStep.ended at found
  split at found
  · cases found
  · rename_i nonempty
    cases found
    cases blamed
    exact ⟨trimmed.startsVisibly (by simpa using nonempty), rfl⟩

theorem shown_of_statementStep {dialect : Dialect} {position : Position} {prelude : Prelude}
    {error : SheetError} (failed : statementStep position prelude = .error error) :
    error.position = prelude.position ∧ error.fault.ShownBy dialect prelude.rest := by
  unfold statementStep at failed
  simp only at failed
  split at failed
  · rename_i opened
    split at failed
    · cases failed
      exact ⟨rfl, congrArg List.head? opened⟩
    · cases failed
  · cases failed
  · cases failed

theorem blame?_of_statementStep {dialect : Dialect} {position : Position} {prelude : Prelude}
    {step : EventStep} {event : Event} {error : SheetError}
    (read : statementStep position prelude = .ok step) (found : event ∈ step.event?)
    (blamed : blame? (.ok event) = some error) :
    error.position = prelude.position ∧ error.fault.ShownBy dialect prelude.rest ∨
      StartsVisibly (trim prelude.text) ∧
        error = ⟨.unknownWord (firstWord (trim prelude.text)), position⟩ := by
  unfold statementStep at read
  simp only at read
  split at read
  · rename_i opened
    split at read
    · cases read
    · cases read
      cases found
      cases blamed
      exact .inl ⟨rfl, congrArg List.head? opened⟩
  · cases read
    exact .inr (blame?_of_ended (trimmed_trim prelude.text) found blamed)
  · cases read
    exact .inr (blame?_of_ended (trimmed_trim prelude.text) found blamed)

theorem shown_of_statement {dialect : Dialect} {position : Position} {c : Char} {rest : Text}
    {prelude : Prelude} (visible : isBlank c = false)
    (plain : dialect = .scss → startsLineComment (c :: rest) = false)
    (read : readPrelude dialect [] position (c :: rest) = .ok prelude)
    (first : StartsVisibly (trim prelude.text)) :
    (SheetFault.unknownWord (firstWord (trim prelude.text))).ShownBy dialect (c :: rest) := by
  apply shown_of_firstWord first
  have starts : ∀ d ∈ prelude.text.head?, isBlank d = false := by
    intro d found
    rw [head?_text plain read d found]
    exact visible
  obtain ⟨after, whole⟩ := trim_isPrefix starts
  have longer := takeWhile_isPrefix_append (trim prelude.text) after
  rw [whole] at longer
  exact longer.trans (takeWhile_text_isPrefix read)

theorem founded_of_nextEvent_error {dialect : Dialect} {position : Position}
    {source before rest : Text} {c : Char} {error : SheetError}
    (whole : before ++ c :: rest = source) (counted : position = Position.start.advance before)
    (failed : nextEvent dialect position c rest = .error error) :
    error.Founded dialect source := by
  unfold nextEvent at failed
  split at failed
  · cases failed
  split at failed
  · cases failed
  split at failed
  · rename_i opens
    simp only [Bool.and_eq_true, decide_eq_true_eq] at opens
    obtain ⟨rfl, first⟩ := opens
    obtain ⟨inner, rfl⟩ := List.head?_eq_some_iff.mp first
    split at failed
    · rename_i unclosed
      cases failed
      exact ⟨before, _, whole, counted, List.prefix_append ['/', '*'] inner,
        not_infix_of_takeComment unclosed⟩
    · cases failed
  split at failed
  · cases failed
  split at failed
  · rename_i found
    cases failed
    exact founded_of_readPrelude whole counted (by simp) found
  · rename_i prelude found
    obtain ⟨taken, same, advanced⟩ := exists_taken_of_readPrelude found
    obtain ⟨placed, shown⟩ := shown_of_statementStep failed
    refine ⟨before ++ taken, prelude.rest, by rw [List.append_assoc, same, whole], ?_, shown⟩
    rw [placed, advanced, counted, Position.advance_append]

theorem founded_of_nextEvent {dialect : Dialect} {position : Position}
    {source before rest : Text} {c : Char} {step : EventStep} {event : Event} {error : SheetError}
    (visible : isBlank c = false) (whole : before ++ c :: rest = source)
    (counted : position = Position.start.advance before)
    (read : nextEvent dialect position c rest = .ok step) (found : event ∈ step.event?)
    (blamed : blame? (.ok event) = some error) : error.Founded dialect source := by
  unfold nextEvent at read
  split at read
  · rename_i closes
    cases read
    cases found
    cases blamed
    exact ⟨before, c :: rest, whole, counted, congrArg some closes⟩
  split at read
  · cases read
    cases found
  split at read
  · split at read
    · cases read
    · cases read
      cases found
      cases blamed
  split at read
  · cases read
    cases found
    cases blamed
  rename_i uncommented
  split at read
  · cases read
  · rename_i prelude taken
    obtain ⟨kept, same, advanced⟩ := exists_taken_of_readPrelude taken
    rcases blame?_of_statementStep read found blamed with ⟨placed, shown⟩ | ⟨first, rfl⟩
    · refine ⟨before ++ kept, prelude.rest, by rw [List.append_assoc, same, whole], ?_, shown⟩
      rw [placed, advanced, counted, Position.advance_append]
    · have plain (scss : dialect = .scss) : startsLineComment (c :: rest) = false := by
        unfold startsLineComment
        split
        · rename_i opens
          cases opens
          simp [scss] at uncommented
        · rfl
      exact ⟨before, c :: rest, whole, counted, shown_of_statement visible plain taken first⟩

theorem founded_of_events {dialect : Dialect} {position : Position} {source before t : Text}
    {error : SheetError} (whole : before ++ t = source)
    (counted : position = Position.start.advance before)
    (blamed : error ∈ (events dialect position t).filterMap blame?) :
    error.Founded dialect source := by
  fun_induction events dialect position t generalizing before
  case case1 => cases blamed
  case case2 position c rest blank ih =>
    have next : position.next c = Position.start.advance (before ++ [c]) := by
      rw [Position.advance_append, ← counted]
      rfl
    exact ih (by rw [List.append_assoc, List.singleton_append, whole]) next blamed
  case case3 failed =>
    obtain rfl := List.mem_singleton.mp blamed
    exact founded_of_nextEvent_error whole counted failed
  case case4 position c rest visible step read _ ih =>
    obtain ⟨taken, same, advanced⟩ := exists_counted_of_nextEvent read
    rw [List.filterMap_append, List.mem_append] at blamed
    rcases blamed with here | later
    · obtain ⟨entry, member, blamed⟩ := List.mem_filterMap.mp here
      obtain ⟨event, found, rfl⟩ := List.mem_map.mp member
      exact founded_of_nextEvent (by simpa using visible) whole counted read
        (Option.mem_toList.mp found) blamed
    · have next : step.position = Position.start.advance (before ++ taken) := by
        rw [Position.advance_append, ← counted, advanced]
      exact ih (by rw [List.append_assoc, same, whole]) next later

/-- An error stands at an offset of a source: its position is that of this offset and of no other
one, and the source shows there what is wrong. With fewer characters than a word of 32 bits can
count, line and column are such words. -/
structure SheetError.StandsAt (dialect : Dialect) (source : Text) (offset : Nat)
    (error : SheetError) : Prop where
  inside : offset < source.length
  position : error.position = .ofOffset source offset
  only : ∀ other ≤ source.length, error.position = .ofOffset source other → other = offset
  shown : error.fault.ShownBy dialect (source.drop offset)
  fits : source.length < 0xFFFFFFFF →
    error.position.line ≤ 0xFFFFFFFF ∧ error.position.column ≤ 0xFFFFFFFF

theorem SheetError.Founded.exists_standsAt {dialect : Dialect} {source : Text}
    {error : SheetError} (founded : error.Founded dialect source) :
    ∃ offset, error.StandsAt dialect source offset := by
  obtain ⟨before, after, rfl, counted, shown⟩ := founded
  have nonempty : after ≠ [] := by
    rintro rfl
    exact error.fault.not_shownBy_nil dialect shown
  have inside : before.length < (before ++ after).length := by
    rw [List.length_append]
    exact Nat.lt_add_of_pos_right (List.length_pos_iff.mpr nonempty)
  have placed : error.position = .ofOffset (before ++ after) before.length := by
    rw [counted, Position.ofOffset_append]
  exact ⟨before.length, inside, placed, Position.only_ofOffset inside.le placed,
    by rwa [List.drop_left], Position.fits_ofOffset placed⟩

/-- A source that cannot be read is refused where it has what is wrong with it. -/
theorem parse_error_standsAt (dialect : Dialect) (source : Text) (error : SheetError)
    (failed : Sheet.parse dialect source = .error error) :
    ∃ offset, error.StandsAt dialect source offset := by
  apply SheetError.Founded.exists_standsAt
  apply founded_of_events (List.nil_append source) rfl
  exact mem_blames_of_buildNodes failed

/-- An interpolation that stays open inside a bracket, inside a block. -/
theorem parse_error_standsAt_nested :
    Sheet.parse .scss ".a \x7b // \x7d\n  b: c(#\x7bd)" = .error ⟨.unclosedBracket '{', ⟨2, 8⟩⟩ ∧
      ∃ offset, SheetError.StandsAt .scss ".a \x7b // \x7d\n  b: c(#\x7bd)" offset
        ⟨.unclosedBracket '{', ⟨2, 8⟩⟩ := by
  have failed : Sheet.parse .scss ".a \x7b // \x7d\n  b: c(#\x7bd)" =
      .error ⟨.unclosedBracket '{', ⟨2, 8⟩⟩ := by
    rw [← map_eq_error_iff (f := fun _ => ())]
    decide +kernel
  exact ⟨failed, parse_error_standsAt _ _ _ failed⟩

end ClassLint
