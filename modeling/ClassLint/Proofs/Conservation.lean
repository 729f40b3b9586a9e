import ClassLint.Proofs.Rendering
import ClassLint.Proofs.Trimming

/-! Reading a stylesheet loses, repeats and moves nothing but blanks, semicolons and line
comments. -/

namespace ClassLint

def erase (t : Text) : Text := t.filter fun c => !isBlank c && c ≠ ';'

@[simp]
theorem erase_nil : erase [] = [] := rfl

@[simp]
theorem erase_append (s t : Text) : erase (s ++ t) = erase s ++ erase t := List.filter_append s t

theorem erase_cons_of_visible {c : Char} (visible : isBlank c = false) (other : c ≠ ';')
    (t : Text) : erase (c :: t) = c :: erase t := by
  simp [erase, visible, other]

theorem erase_cons_of_blank {c : Char} (blank : isBlank c = true) (t : Text) :
    erase (c :: t) = erase t := by
  simp [erase, blank]

@[simp]
theorem erase_semicolon (t : Text) : erase (';' :: t) = erase t := by
  simp [erase]

theorem erase_of_allBlank {t : Text} (blank : AllBlank t) : erase t = [] := by
  simp only [erase, List.filter_eq_nil_iff]
  intro c member
  simp [blank c member]

@[simp]
theorem erase_trim (t : Text) : erase (trim t) = erase t := by
  obtain ⟨before, after, leading, trailing, whole⟩ := exists_trim t
  conv_rhs => rw [← whole]
  simp [erase_of_allBlank leading, erase_of_allBlank trailing]

/-! ### From the text to events -/

/-- Only the second dialect has line comments, which statements drop. -/
def FreeOfLineComments (dialect : Dialect) (t : Text) : Prop :=
  dialect = .scss → ¬['/', '/'] <:+: t

theorem FreeOfLineComments.of_suffix {dialect : Dialect} {s t : Text}
    (free : FreeOfLineComments dialect t) (suffix : s <:+ t) : FreeOfLineComments dialect s :=
  fun same found => free same (found.trans suffix.isInfix)

theorem nextStep_kept {dialect : Dialect} {brackets : List OpenBracket} {position : Position}
    {c : Char} {rest : Text} {step : Step} (free : FreeOfLineComments dialect (c :: rest))
    (read : nextStep dialect brackets position c rest = .ok step) : step.kept = true := by
  have noLine : ¬(c = '/' ∧ rest.head? = some '/' ∧ dialect = .scss) := by
    rintro ⟨rfl, first, same⟩
    obtain ⟨tail, rfl⟩ := List.head?_eq_some_iff.mp first
    exact free same (List.prefix_append ['/', '/'] tail).isInfix
  unfold nextStep at read
  grind

theorem readPrelude_append {dialect : Dialect} {brackets : List OpenBracket} {position : Position}
    {t : Text} {prelude : Prelude} (free : FreeOfLineComments dialect t)
    (read : readPrelude dialect brackets position t = .ok prelude) :
    prelude.text ++ prelude.rest = t := by
  fun_induction readPrelude dialect brackets position t generalizing prelude
  case case1 =>
    cases read
    rfl
  case case2 => cases read
  case case3 =>
    cases read
    rfl
  case case4 => cases read
  case case5 step found _ _ ih =>
    obtain ⟨tail, following, rfl⟩ := exists_of_map_eq_ok read
    have whole := nextStep_append found
    have suffix := List.suffix_append step.taken step.rest
    rw [whole] at suffix
    rw [nextStep_kept free found, if_pos rfl, List.append_assoc,
      ih (free.of_suffix suffix) following, whole]

def Event.source : Event → Text
  | .comment c => c.source
  | .opening prelude _ _ => prelude ++ ['{']
  | .statement t _ => t
  | .closing _ => ['}']

theorem exists_mark_of_statementStep {position : Position} {prelude : Prelude} {step : EventStep}
    (read : statementStep position prelude = .ok step) :
    ∃ mark, mark ++ step.rest = prelude.rest ∧
      erase (step.event?.toList.flatMap Event.source) = erase (prelude.text ++ mark) := by
  have ended (text : Text) :
      (statementStep.ended position text).toList.flatMap Event.source = text := by
    cases text <;> simp [statementStep.ended, Event.source]
  unfold statementStep at read
  simp only at read
  split at read
  · rename_i rest opened
    split at read
    · cases read
    · cases read
      exact ⟨['{'], opened.symm, by simp [Event.source]⟩
  · rename_i rest finished
    cases read
    exact ⟨[';'], finished.symm, by simp [ended]⟩
  · cases read
    exact ⟨[], rfl, by simp [ended]⟩

theorem exists_taken_of_nextEvent {dialect : Dialect} {position : Position} {c : Char} {rest : Text}
    {step : EventStep} (free : FreeOfLineComments dialect (c :: rest))
    (read : nextEvent dialect position c rest = .ok step) :
    ∃ taken, taken ++ step.rest = c :: rest ∧
      erase (step.event?.toList.flatMap Event.source) = erase taken := by
  unfold nextEvent at read
  split at read
  · rename_i brace
    cases read
    exact ⟨[c], rfl, by simp [Event.source, brace]⟩
  split at read
  · rename_i semicolon
    cases read
    exact ⟨[c], rfl, by simp [semicolon]⟩
  split at read
  · rename_i opens
    simp only [Bool.and_eq_true, decide_eq_true_eq] at opens
    obtain ⟨rfl, first⟩ := opens
    obtain ⟨inner, rfl⟩ := List.head?_eq_some_iff.mp first
    split at read
    · cases read
    · rename_i body after found
      cases read
      have whole : body ++ '*' :: '/' :: after = inner := takeComment_append found
      refine ⟨'/' :: '*' :: (body ++ ['*', '/']), by simp [whole], ?_⟩
      simp (disch := decide) [Event.source, Comment.source, erase_cons_of_visible]
  split at read
  · rename_i opens
    simp only [Bool.and_eq_true, decide_eq_true_eq] at opens
    obtain ⟨⟨rfl, first⟩, same⟩ := opens
    obtain ⟨inner, rfl⟩ := List.head?_eq_some_iff.mp first
    exact absurd (List.prefix_append ['/', '/'] inner).isInfix (free same)
  · split at read
    · cases read
    · rename_i prelude found
      obtain ⟨mark, left, same⟩ := exists_mark_of_statementStep read
      refine ⟨prelude.text ++ mark, ?_, same⟩
      rw [List.append_assoc, left, readPrelude_append free found]

theorem erase_events {dialect : Dialect} {position : Position} {t : Text} {found : List Event}
    (free : FreeOfLineComments dialect t) (read : events dialect position t = found.map .ok) :
    erase (found.flatMap Event.source) = erase t := by
  fun_induction events dialect position t generalizing found
  case case1 =>
    obtain rfl := List.map_eq_nil_iff.mp read.symm
    rfl
  case case2 c rest blank ih =>
    rw [erase_cons_of_blank blank]
    exact ih (free.of_suffix (List.suffix_cons c rest)) read
  case case3 =>
    obtain ⟨event, tail, rfl, wrong, _⟩ := List.map_eq_cons_iff.mp read.symm
    cases wrong
  case case4 c rest visible step next _ ih =>
    obtain ⟨first, others, rfl, here, later⟩ := List.map_eq_append_iff.mp read.symm
    obtain rfl : first = step.event?.toList :=
      List.map_injective_iff.mpr (fun _ _ => Except.ok.inj) here
    obtain ⟨taken, whole, same⟩ := exists_taken_of_nextEvent free next
    have suffix := List.suffix_append taken step.rest
    rw [whole] at suffix
    rw [List.flatMap_append, erase_append, same, ih (free.of_suffix suffix) later.symm,
      ← erase_append, whole]

/-! ### From events to the tree -/

/-- Some text that the nodes can be written as has the given characters. -/
def Residue (nodes : List Node) (e : Text) : Prop := ∃ t, Written nodes t ∧ erase t = e

theorem Residue.append {nodes others : List Node} {e f : Text} (first : Residue nodes e)
    (second : Residue others f) : Residue (nodes ++ others) (e ++ f) := by
  obtain ⟨s, written, rfl⟩ := first
  obtain ⟨t, following, rfl⟩ := second
  exact ⟨s ++ t, written.append following, erase_append s t⟩

theorem erase_atRule_text (t : Text) (position : Position) :
    erase (AtRule.ofText t position).text = erase ('@' :: t) := by
  have whole := List.takeWhile_append_dropWhile (p := isAtNameCharacter) (l := t)
  simp (disch := decide) only [AtRule.ofText, AtRule.text, erase_cons_of_visible,
    erase_cons_of_blank, erase_append, erase_trim]
  rw [← erase_append, whole]

theorem residue_ofBlock {children : List Node} {e : Text} (prelude : Text) (position : Position)
    (inside : Residue children e) :
    Residue [Node.ofBlock prelude position children] (erase prelude ++ '{' :: (e ++ ['}'])) := by
  obtain ⟨inner, written, rfl⟩ := inside
  unfold Node.ofBlock
  split
  · rename_i rest
    refine ⟨_, .atBlock _ written .nil, ?_⟩
    rw [erase_append, erase_atRule_text]
    simp (disch := decide) [erase_cons_of_visible]
  · refine ⟨_, .rule _ written .nil, ?_⟩
    simp (disch := decide) [erase_cons_of_visible]

theorem splitColon_append {scan : ColonScan} {t : Text} {taken : Taken}
    (read : splitColon scan t = some taken) : taken.1 ++ ':' :: taken.2 = t := by
  induction t generalizing scan taken with
  | nil => cases read
  | cons c rest ih =>
      rw [splitColon] at read
      split at read
      · rename_i colon
        simp only [Bool.and_eq_true, decide_eq_true_eq] at colon
        cases read
        rw [colon.1.1]
        rfl
      · obtain ⟨inner, tail, rfl⟩ := Option.map_eq_some_iff.mp read
        exact congrArg (c :: ·) (ih tail)

theorem erase_declaration_text {t : Text} {position : Position} {declaration : Declaration}
    (read : Declaration.parse t position = .ok declaration) :
    ∃ word, sameLetters word importantWord = true ∧ erase (declaration.text word) = erase t := by
  unfold Declaration.parse at read
  split at read
  · cases read
  · rename_i property value found
    cases read
    have whole : property ++ ':' :: value = t := splitColon_append found
    rw [← whole]
    cases marked : beforeImportant? (trim value) with
    | none =>
        refine ⟨importantWord, by decide, ?_⟩
        simp (disch := decide) [Declaration.text, Declaration.mark, erase_cons_of_visible]
    | some head =>
        obtain ⟨before, after, word, leading, trailing, spelled, same⟩ :=
          exists_of_beforeImportant? marked
        refine ⟨word, spelled, ?_⟩
        rw [← List.singleton_append (l := value), erase_append, erase_append, ← erase_trim value,
          ← same]
        simp (disch := decide) [Declaration.text, Declaration.mark, erase_cons_of_visible,
          erase_of_allBlank leading, erase_of_allBlank trailing]

theorem residue_ofStatement {t : Text} {position : Position} {node : Node}
    (read : Node.ofStatement t position = .ok node) : Residue [node] (erase t) := by
  unfold Node.ofStatement at read
  split at read
  · rename_i rest
    cases read
    refine ⟨_, .atStatement _ .nil, ?_⟩
    rw [erase_append, erase_atRule_text]
    simp
  · obtain ⟨declaration, parsed, rfl⟩ := exists_of_map_eq_ok read
    obtain ⟨word, spelled, same⟩ := erase_declaration_text parsed
    exact ⟨_, .declaration declaration spelled .nil, by simp [same]⟩

/-- The characters read so far: those of the blocks still open with the nodes before them, and of
the nodes of the innermost block. -/
inductive Opened : List Frame → List Node → Text → Prop where
  | outermost {done : List Node} {e : Text} (here : Residue done.reverse e) : Opened [] done e
  | inside {frame : Frame} {frames : List Frame} {done : List Node} {e f : Text}
      (outer : Opened frames frame.before e) (here : Residue done.reverse f) :
      Opened (frame :: frames) done (e ++ (erase frame.prelude ++ '{' :: f))

namespace Opened

variable {frames : List Frame} {done : List Node} {e f : Text}

theorem add {node : Node} (opened : Opened frames done e) (read : Residue [node] f) :
    Opened frames (node :: done) (e ++ f) := by
  cases opened with
  | outermost here => exact .outermost (by simpa using here.append read)
  | inside outer here =>
      have both := here.append read
      rw [← List.reverse_cons] at both
      simpa using Opened.inside outer both

theorem openBlock (prelude : Text) (position brace : Position) (opened : Opened frames done e) :
    Opened (⟨prelude, position, brace, done⟩ :: frames) [] (e ++ erase (prelude ++ ['{'])) := by
  let frame : Frame := ⟨prelude, position, brace, done⟩
  have nothing : Residue ([] : List Node).reverse [] := ⟨[], .nil, rfl⟩
  have inner : Opened (frame :: frames) [] (e ++ (erase prelude ++ ['{'])) :=
    .inside opened nothing
  simpa (disch := decide) [erase_cons_of_visible] using inner

theorem closeBlock {frame : Frame} (opened : Opened (frame :: frames) done e) :
    Opened frames (frame.close done.reverse) (e ++ ['}']) := by
  cases opened with
  | inside outer here =>
      simpa [Frame.close] using outer.add (residue_ofBlock frame.prelude frame.position here)

end Opened

theorem residue_buildNodes {frames : List Frame} {done nodes : List Node} {e : Text}
    {read : List (Except SheetError Event)} (opened : Opened frames done e)
    (built : buildNodes frames done read = .ok nodes) :
    ∃ found : List Event, read = found.map .ok ∧
      Residue nodes (e ++ erase (found.flatMap Event.source)) := by
  induction read generalizing frames done e with
  | nil =>
      cases opened with
      | outermost here =>
          cases built
          exact ⟨[], rfl, by simpa using here⟩
      | inside outer here => cases built
  | cons outcome read ih =>
      obtain error | event := outcome
      · cases built
      -- Whatever the event is, what is left to show is that the blocks it leaves open hold it.
      · have added (next : ∃ frames done, Opened frames done (e ++ erase event.source) ∧
            buildNodes frames done read = .ok nodes) :
            ∃ found : List Event, .ok event :: read = found.map .ok ∧
              Residue nodes (e ++ erase (found.flatMap Event.source)) := by
          obtain ⟨frames, done, opened, built⟩ := next
          obtain ⟨found, rfl, residue⟩ := ih opened built
          exact ⟨event :: found, rfl, by simpa using residue⟩
        apply added
        cases event with
        | comment comment =>
            exact ⟨frames, .comment comment :: done,
              opened.add ⟨_, .comment comment .nil, by simp [Event.source]⟩, built⟩
        | opening prelude position brace =>
            exact ⟨_, _, opened.openBlock prelude position brace, built⟩
        | statement t position =>
            rw [buildNodes] at built
            split at built
            · cases built
            · rename_i node statement
              exact ⟨frames, node :: done, opened.add (residue_ofStatement statement), built⟩
        | closing position =>
            cases frames with
            | nil => cases built
            | cons frame frames => exact ⟨frames, _, opened.closeBlock, built⟩

/-- A stylesheet and its tree, written back, have the same characters in the same order, apart from
blanks, semicolons and the case of the word that important declarations end in. -/
theorem parse_conserves (dialect : Dialect) (source : Text) (sheet : Sheet)
    (read : Sheet.parse dialect source = .ok sheet)
    (plain : dialect = .css ∨ ¬['/', '/'] <:+: source) :
    ∃ t, Written sheet t ∧ erase t = erase source := by
  have free : FreeOfLineComments dialect source := by
    rintro rfl
    exact plain.resolve_left (by decide)
  have nothing : Opened [] [] [] := .outermost ⟨[], .nil, rfl⟩
  obtain ⟨found, same, residue⟩ := residue_buildNodes nothing read
  rw [erase_events free same] at residue
  exact residue

theorem parse_conserves_nested :
    ∃ sheet : Sheet,
      Sheet.parse .scss
          "@media (x) \x7b .a, p \x7b c : \";\" ! IMPORTANT \x7d ; /* d */ \x7d @e f" = .ok sheet ∧
        sheet.render =
          "@media (x)\x7b.a, p\x7bc:\";\"!important;\x7d/*d*/\x7d@e f;".toList ∧
        ∃ t, Written sheet t ∧
          erase t =
            erase "@media (x) \x7b .a, p \x7b c : \";\" ! IMPORTANT \x7d ; /* d */ \x7d @e f" := by
  have read : (Sheet.parse .scss
      "@media (x) \x7b .a, p \x7b c : \";\" ! IMPORTANT \x7d ; /* d */ \x7d @e f").map
        Sheet.render =
      .ok "@media (x)\x7b.a, p\x7bc:\";\"!important;\x7d/*d*/\x7d@e f;".toList := by
    decide +kernel
  obtain ⟨sheet, read, written⟩ := exists_of_map_eq_ok read
  exact ⟨sheet, read, written, parse_conserves _ _ sheet read (by decide +kernel)⟩

end ClassLint
