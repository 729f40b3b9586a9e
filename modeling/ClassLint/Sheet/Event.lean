import ClassLint.Sheet.Node
import ClassLint.Sheet.Prelude
import ClassLint.Text.Blank

/-! A stylesheet as a sequence of events: comments, statements, and blocks that open and close. The
sequence ends early where the text cannot be read on. -/

namespace ClassLint

inductive Event where
  | comment (comment : Comment)
  | opening (prelude : Text) (position brace : Position)
  | statement (text : Text) (position : Position)
  | closing (position : Position)
  deriving DecidableEq, Repr

/-- What one step through the text finds, and where it goes on. -/
structure EventStep where
  event? : Option Event
  rest : Text
  position : Position
  deriving DecidableEq, Repr

/-- A statement and the mark that ends it. A closing brace is left to be read as an event. -/
def statementStep (position : Position) (prelude : Prelude) : Except SheetError EventStep :=
  let text := trim prelude.text
  match prelude.rest with
  | '{' :: rest =>
    if text.isEmpty then .error ⟨.missingSelector, prelude.position⟩
    else .ok ⟨some (.opening text position prelude.position), rest, prelude.position.next '{'⟩
  | ';' :: rest => .ok ⟨ended text, rest, prelude.position.next ';'⟩
  | rest => .ok ⟨ended text, rest, prelude.position⟩
where
  ended (text : Text) : Option Event :=
    if text.isEmpty then none else some (.statement text position)

def nextEvent (dialect : Dialect) (position : Position) (c : Char) (rest : Text) :
    Except SheetError EventStep :=
  if c = '}' then .ok ⟨some (.closing position), rest, position.next c⟩
  else if c = ';' then .ok ⟨none, rest, position.next c⟩
  else if c = '/' && rest.head? = some '*' then
    match takeComment rest.tail with
    | none => .error ⟨.unclosedComment, position⟩
    | some (body, after) =>
      .ok ⟨some (.comment ⟨trim body, false, position⟩), after,
        position.advance ('/' :: '*' :: body ++ ['*', '/'])⟩
  else if c = '/' && rest.head? = some '/' && dialect = .scss then
    let line := rest.takeWhile (· ≠ '\n')
    .ok ⟨some (.comment ⟨trim line.tail, true, position⟩), rest.dropWhile (· ≠ '\n'),
      position.advance (c :: line)⟩
  else
    match readPrelude dialect [] position (c :: rest) with
    | .error error => .error error
    | .ok prelude => statementStep position prelude

theorem readPrelude_rest_le {dialect : Dialect} {brackets : List OpenBracket} {position : Position}
    {t : Text} {prelude : Prelude} (read : readPrelude dialect brackets position t = .ok prelude) :
    prelude.rest.length ≤ t.length := by
  fun_induction readPrelude dialect brackets position t generalizing prelude
  case case1 =>
    injection read with same
    simp [← same]
  case case2 => simp at read
  case case3 =>
    injection read with same
    simp [← same]
  case case4 => simp at read
  case case5 step found length _ ih =>
    obtain ⟨inner, tail, rfl⟩ := exists_of_map_eq_ok read
    have := ih tail
    simp only [List.length_append] at length
    split <;> simp_all <;> omega

theorem readPrelude_of_ends {dialect : Dialect} {position : Position} {c : Char} {rest : Text}
    (ends : endsStatement c = true) :
    readPrelude dialect [] position (c :: rest) = .ok ⟨[], c :: rest, position⟩ := by
  unfold readPrelude
  simp [ends]

theorem readPrelude_rest_lt {dialect : Dialect} {position : Position} {c : Char} {rest : Text}
    {prelude : Prelude} (inside : endsStatement c = false)
    (read : readPrelude dialect [] position (c :: rest) = .ok prelude) :
    prelude.rest.length < (c :: rest).length := by
  unfold readPrelude at read
  simp only [inside, Bool.and_false, Bool.false_eq_true, ↓reduceIte] at read
  split at read
  · simp at read
  · rename_i step found
    obtain ⟨inner, tail, rfl⟩ := exists_of_map_eq_ok read
    have length := congrArg List.length (nextStep_append found)
    have := List.length_pos_iff.2 (nextStep_taken_ne_nil found)
    have := readPrelude_rest_le tail
    simp only [List.length_append] at length
    split <;> simp_all <;> omega

theorem nextEvent_shorter {dialect : Dialect} {position : Position} {c : Char} {rest : Text}
    {step : EventStep} (read : nextEvent dialect position c rest = .ok step) :
    step.rest.length < (c :: rest).length := by
  unfold nextEvent at read
  split at read
  · injection read with same
    simp [← same]
  split at read
  · injection read with same
    simp [← same]
  split at read
  · split at read
    · simp at read
    · rename_i found
      have := congrArg List.length (takeComment_append found)
      injection read with same
      subst same
      simp_all
      omega
  split at read
  · injection read with same
    have := (List.dropWhile_sublist (l := rest) (fun d : Char => decide (d ≠ '\n'))).length_le
    simp [← same]
    simp at this
    omega
  · split at read
    · simp at read
    · rename_i prelude found
      have atMost := readPrelude_rest_le found
      unfold statementStep at read
      simp only at read
      split at read
      · split at read
        · simp at read
        · rename_i after opened _
          injection read with same
          rw [opened, List.length_cons] at atMost
          rw [← same]
          exact atMost
      · rename_i after ended
        injection read with same
        rw [ended, List.length_cons] at atMost
        rw [← same]
        exact atMost
      · rename_i other _
        injection read with same
        rw [← same]
        by_cases ends : endsStatement c = true
        · rw [readPrelude_of_ends ends] at found
          injection found with found
          have brace : c = '{' := by simp_all [endsStatement]
          exact absurd (by rw [← found, brace]) (other rest)
        · exact readPrelude_rest_lt (by simpa using ends) found

def events (dialect : Dialect) (position : Position) (t : Text) :
    List (Except SheetError Event) :=
  match t with
  | [] => []
  | c :: rest =>
    if isBlank c then events dialect (position.next c) rest
    else
      match read : nextEvent dialect position c rest with
      | .error error => [.error error]
      | .ok step =>
        have := nextEvent_shorter read
        step.event?.toList.map .ok ++ events dialect step.position step.rest
termination_by t.length
decreasing_by
  · simp only [List.length_cons, Nat.lt_add_one]
  · exact this

end ClassLint
