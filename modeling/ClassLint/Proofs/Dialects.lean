import ClassLint.Proofs.Places

/-! Sources that read the same in both dialects. The dialect is asked for at two marks only, that of
a line comment and that of an interpolation; where a source has neither, every step through it is
the same, and so is what the steps lead to. -/

namespace ClassLint

/-- A text without any mark of the second dialect. -/
structure FreeOfMarks (t : Text) : Prop where
  noLine : ¬['/', '/'] <:+: t
  noInterpolation : ¬['#', '{'] <:+: t

namespace FreeOfMarks

theorem of_suffix {s t : Text} (free : FreeOfMarks t) (suffix : s <:+ t) : FreeOfMarks s where
  noLine found := free.noLine (found.trans suffix.isInfix)
  noInterpolation found := free.noInterpolation (found.trans suffix.isInfix)

theorem tail {c : Char} {rest : Text} (free : FreeOfMarks (c :: rest)) : FreeOfMarks rest :=
  free.of_suffix (List.suffix_cons c rest)

theorem noLine_cons {c : Char} {rest : Text} (free : FreeOfMarks (c :: rest)) :
    ¬(c = '/' ∧ rest.head? = some '/') := by
  rintro ⟨rfl, first⟩
  obtain ⟨tail, rfl⟩ := List.head?_eq_some_iff.mp first
  exact free.noLine (List.prefix_append ['/', '/'] tail).isInfix

theorem noInterpolation_cons {c : Char} {rest : Text} (free : FreeOfMarks (c :: rest)) :
    ¬(c = '#' ∧ rest.head? = some '{') := by
  rintro ⟨rfl, first⟩
  obtain ⟨tail, rfl⟩ := List.head?_eq_some_iff.mp first
  exact free.noInterpolation (List.prefix_append ['#', '{'] tail).isInfix

end FreeOfMarks

theorem nextStep_dialect {brackets : List OpenBracket} {position : Position} {c : Char}
    {rest : Text} (free : FreeOfMarks (c :: rest)) (dialect other : Dialect) :
    nextStep dialect brackets position c rest = nextStep other brackets position c rest := by
  have noLine := free.noLine_cons
  have noInterpolation := free.noInterpolation_cons
  unfold nextStep
  grind

theorem readPrelude_cons (dialect : Dialect) (brackets : List OpenBracket) (position : Position)
    (c : Char) (rest : Text) :
    readPrelude dialect brackets position (c :: rest) =
      if brackets.isEmpty && endsStatement c then .ok ⟨[], c :: rest, position⟩
      else (nextStep dialect brackets position c rest).bind fun step =>
        (readPrelude dialect step.brackets (position.advance step.taken) step.rest).map fun tail =>
          if step.kept then { tail with text := step.taken ++ tail.text } else tail := by
  rw [readPrelude]
  split_ifs
  · rfl
  · split <;> rename_i found <;> (conv_rhs => rw [found]) <;> rfl

theorem readPrelude_dialect {brackets : List OpenBracket} {position : Position} {t : Text}
    (free : FreeOfMarks t) (dialect other : Dialect) :
    readPrelude dialect brackets position t = readPrelude other brackets position t := by
  fun_induction readPrelude dialect brackets position t with
  | case1 => rw [readPrelude]
  | case2 => rw [readPrelude]
  | case3 _ _ _ _ ended => rw [readPrelude_cons, if_pos ended]
  | case4 _ _ _ _ inside error failed =>
      rw [nextStep_dialect free dialect other] at failed
      rw [readPrelude_cons, if_neg inside, failed]
      rfl
  | case5 _ _ _ _ inside step found _ _ ih =>
      have suffix := List.suffix_append step.taken step.rest
      rw [nextStep_append found] at suffix
      rw [ih (free.of_suffix suffix), readPrelude_cons other, if_neg inside,
        ← nextStep_dialect free dialect other, found]
      rfl

theorem nextEvent_dialect {position : Position} {c : Char} {rest : Text}
    (free : FreeOfMarks (c :: rest)) (dialect other : Dialect) :
    nextEvent dialect position c rest = nextEvent other position c rest := by
  have noLine (dialect : Dialect) :
      ¬(decide (c = '/') && decide (rest.head? = some '/') && decide (dialect = .scss)) = true := by
    simpa using fun slash first => absurd ⟨slash, first⟩ free.noLine_cons
  simp only [nextEvent, if_neg (noLine _), readPrelude_dialect free dialect other]

theorem events_cons (dialect : Dialect) (position : Position) (c : Char) (rest : Text) :
    events dialect position (c :: rest) =
      if isBlank c then events dialect (position.next c) rest
      else
        match nextEvent dialect position c rest with
        | .error error => [.error error]
        | .ok step => step.event?.toList.map .ok ++ events dialect step.position step.rest := by
  conv_lhs => unfold events
  split_ifs
  · rfl
  · split <;> rename_i found <;> conv_rhs => rw [found]

theorem events_dialect {position : Position} {t : Text} (free : FreeOfMarks t)
    (dialect other : Dialect) : events dialect position t = events other position t := by
  -- A step of one run is one of the other, and what it leaves is again free of marks.
  fun_induction events dialect position t with
  | case1 => conv_rhs => unfold events
  | case2 _ _ _ blank ih => rw [events_cons, if_pos blank, ih free.tail]
  | case3 _ _ _ visible error failed =>
      rw [nextEvent_dialect free dialect other] at failed
      rw [events_cons, if_neg visible, failed]
  | case4 _ _ _ visible step found _ ih =>
      obtain ⟨taken, whole, -⟩ := exists_counted_of_nextEvent found
      have suffix := List.suffix_append taken step.rest
      rw [whole] at suffix
      rw [ih (free.of_suffix suffix), events_cons other, if_neg visible,
        ← nextEvent_dialect free dialect other, found]

/-- A source that has neither a line comment nor an interpolation, wherever they would stand, is
read alike in both dialects: as the same tree with the same positions, or with the same error. -/
theorem parse_dialect {source : Text} (noLine : ¬['/', '/'] <:+: source)
    (noInterpolation : ¬['#', '{'] <:+: source) :
    Sheet.parse .css source = Sheet.parse .scss source := by
  have free : FreeOfMarks source := ⟨noLine, noInterpolation⟩
  rw [Sheet.parse, Sheet.parse, events_dialect free .css .scss]

/-- Slashes and hashes that stand by themselves, next to a comment and a block. -/
theorem parse_dialect_nested :
    ¬['/', '/'] <:+: "a/b \x7b /*#*/ #c > d \x7b e: f('/') # \x7d \x7d".toList ∧
      ¬['#', '{'] <:+: "a/b \x7b /*#*/ #c > d \x7b e: f('/') # \x7d \x7d".toList ∧
      (Sheet.parse .css "a/b \x7b /*#*/ #c > d \x7b e: f('/') # \x7d \x7d").map Sheet.render =
        .ok "a/b\x7b/*#*/#c > d\x7be:f('/') #;\x7d\x7d".toList ∧
      Sheet.parse .css "a/b \x7b /*#*/ #c > d \x7b e: f('/') # \x7d \x7d" =
        Sheet.parse .scss "a/b \x7b /*#*/ #c > d \x7b e: f('/') # \x7d \x7d" :=
  have noLine : ¬['/', '/'] <:+: "a/b \x7b /*#*/ #c > d \x7b e: f('/') # \x7d \x7d".toList := by
    decide +kernel
  have noInterpolation :
      ¬['#', '{'] <:+: "a/b \x7b /*#*/ #c > d \x7b e: f('/') # \x7d \x7d".toList := by
    decide +kernel
  ⟨noLine, noInterpolation, by decide +kernel, parse_dialect noLine noInterpolation⟩

end ClassLint
