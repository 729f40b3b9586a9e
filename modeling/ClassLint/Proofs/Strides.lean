import ClassLint.Proofs.CommaScanning
import ClassLint.Proofs.SheetWriting

/-! A statement stride by stride: strings, comments and escapes are taken whole, brackets open and
close, and everything else is taken one character at a time. -/

namespace ClassLint

/-- What one step of a statement can take from a text, and the brackets that are open after it. -/
inductive Advances (dialect : Dialect) (brackets : List OpenBracket) (position : Position) :
    Text → Step → Prop where
  | quoted {quote : Char} {inner : Text} (mark : isQuote quote = true)
      (inside : Quotable quote inner) (rest : Text) :
      Advances dialect brackets position (quote :: (inner ++ quote :: rest))
        ⟨quote :: (inner ++ [quote]), true, brackets, rest⟩
  | commented (body rest : Text) :
      Advances dialect brackets position ('/' :: '*' :: (body ++ '*' :: '/' :: rest))
        ⟨'/' :: '*' :: (body ++ ['*', '/']), true, brackets, rest⟩
  | escaped (c : Char) (rest : Text) :
      Advances dialect brackets position ('\\' :: c :: rest) ⟨['\\', c], true, brackets, rest⟩
  | dropped (scss : dialect = .scss) (outside : brackets = []) (line rest : Text) :
      Advances dialect brackets position ('/' :: '/' :: (line ++ rest))
        ⟨'/' :: '/' :: line, false, brackets, rest⟩
  | interpolation (scss : dialect = .scss) (rest : Text) :
      Advances dialect brackets position ('#' :: '{' :: rest)
        ⟨['#', '{'], true, ⟨'{', position⟩ :: brackets, rest⟩
  | opening {c : Char} (opens : isOpening c = true) (rest : Text) :
      Advances dialect brackets position (c :: rest)
        ⟨[c], true, ⟨c, position⟩ :: brackets, rest⟩
  | closing {c : Char} (closes : closesLast brackets c = true) (rest : Text) :
      Advances dialect brackets position (c :: rest) ⟨[c], true, brackets.tail, rest⟩
  | character {c : Char} {rest : Text} (unquoted : isQuote c = false)
      (unopened : isOpening c = false) (unclosed : closesLast brackets c = false)
      (unescaped : c = '\\' → rest = []) :
      Advances dialect brackets position (c :: rest) ⟨[c], true, brackets, rest⟩

theorem exists_quotable_of_takeQuoted {quote : Char} {t : Text} {taken : Taken}
    (read : takeQuoted quote t = some taken) :
    ∃ inner, Quotable quote inner ∧ t = inner ++ quote :: taken.2 ∧
      taken.1 = inner ++ [quote] := by
  fun_induction takeQuoted quote t generalizing taken
  case case1 => cases read
  case case2 c rest ih =>
    obtain ⟨later, tail, rfl⟩ := Option.map_eq_some_iff.1 read
    obtain ⟨inner, inside, rfl, whole⟩ := ih tail
    exact ⟨'\\' :: c :: inner, .escaped c inside, rfl, by simp [Taken.push, whole]⟩
  case case3 => cases read
  case case4 rest _ _ =>
    cases read
    exact ⟨[], .nil, rfl, rfl⟩
  case case5 c rest unescaped line other ih =>
    obtain ⟨later, tail, rfl⟩ := Option.map_eq_some_iff.1 read
    obtain ⟨inner, inside, rfl, whole⟩ := ih tail
    have plain : c ≠ '\\' := by
      rintro rfl
      cases inner with
      | nil => exact unescaped _ _ rfl rfl
      | cons d inner => exact unescaped _ _ rfl rfl
    exact ⟨c :: inner, .character other plain line inside, rfl, by simp [Taken.push, whole]⟩

theorem advances_of_nextStep {dialect : Dialect} {brackets : List OpenBracket}
    {position : Position} {c : Char} {rest : Text} {step : Step}
    (read : nextStep dialect brackets position c rest = .ok step) :
    Advances dialect brackets position (c :: rest) step := by
  unfold nextStep at read
  split at read
  · split at read
    · cases read
    · rename_i taken found
      cases read
      obtain ⟨inner, inside, rfl, whole⟩ := exists_quotable_of_takeQuoted found
      rw [whole]
      exact .quoted (by decide) inside taken.2
  · split at read
    · cases read
    · rename_i taken found
      cases read
      obtain ⟨inner, inside, rfl, whole⟩ := exists_quotable_of_takeQuoted found
      rw [whole]
      exact .quoted (by decide) inside taken.2
  · split at read
    · cases read
    · rename_i taken found
      cases read
      rw [← takeComment_append found]
      exact .commented taken.1 taken.2
  · cases read
    exact .escaped _ _
  · rename_i _ _ double single _ unescaped
    split at read
    · rename_i drops
      simp only [Bool.and_eq_true, decide_eq_true_eq, List.isEmpty_iff] at drops
      obtain ⟨⟨⟨rfl, first⟩, scss⟩, outside⟩ := drops
      obtain ⟨tail, rfl⟩ := List.head?_eq_some_iff.mp first
      cases read
      have line : Advances dialect brackets position _ _ := .dropped scss outside
        (tail.takeWhile (· ≠ '\n')) (tail.dropWhile (· ≠ '\n'))
      rw [List.takeWhile_append_dropWhile] at line
      simpa using line
    split at read
    · rename_i opens
      simp only [Bool.and_eq_true, decide_eq_true_eq] at opens
      obtain ⟨⟨rfl, first⟩, scss⟩ := opens
      obtain ⟨tail, rfl⟩ := List.head?_eq_some_iff.mp first
      cases read
      exact .interpolation scss tail
    split at read
    · rename_i opens
      cases read
      exact .opening (by simpa [isOpening] using opens) rest
    split at read
    · rename_i closes
      cases read
      exact .closing closes rest
    · rename_i unopened unclosed
      cases read
      refine .character ?_ (by simpa [isOpening] using unopened) (by simpa using unclosed) ?_
      · rw [isQuote, Bool.or_eq_false_iff, decide_eq_false_iff_not, decide_eq_false_iff_not]
        exact ⟨double, single⟩
      · rintro rfl
        cases rest with
        | nil => rfl
        | cons d rest => exact (unescaped d rest rfl rfl).elim

def Taken.prepend (t : Text) (taken : Taken) : Taken := (t ++ taken.1, taken.2)

@[simp]
theorem Taken.prepend_nil (taken : Taken) : taken.prepend [] = taken := rfl

theorem Taken.prepend_prepend (s t : Text) (taken : Taken) :
    (taken.prepend t).prepend s = taken.prepend (s ++ t) := by
  simp [Taken.prepend]

theorem closedBy_cases {bracket : OpenBracket} {c : Char} (closes : bracket.closedBy c = true) :
    bracket.mark = '(' ∧ c = ')' ∨ bracket.mark = '[' ∧ c = ']' ∨
      bracket.mark = '{' ∧ c = '}' := by
  unfold OpenBracket.closedBy at closes
  split at closes
  · rename_i round
    exact .inl ⟨round, rfl⟩
  · rename_i square
    exact .inr (.inl ⟨square, rfl⟩)
  · rename_i brace
    exact .inr (.inr ⟨brace, rfl⟩)
  · cases closes

/-! ### The strides of a statement -/

/-- A step of a statement, and the brackets that are open before it. -/
structure Stride where
  brackets : List OpenBracket
  step : Step
  deriving DecidableEq, Repr

/-- The steps of the statement that starts a text, up to its end or to the first fault. -/
def strides (dialect : Dialect) (brackets : List OpenBracket) (position : Position) (t : Text) :
    List Stride :=
  match t with
  | [] => []
  | c :: rest =>
    if brackets.isEmpty && endsStatement c then []
    else
      match read : nextStep dialect brackets position c rest with
      | .error _ => []
      | .ok step =>
        have := congrArg List.length (nextStep_append read)
        have := List.length_pos_iff.2 (nextStep_taken_ne_nil read)
        ⟨brackets, step⟩ ::
          strides dialect step.brackets (position.advance step.taken) step.rest
termination_by t.length
decreasing_by simp_all; omega

def Stride.text (stride : Stride) : Text := if stride.step.kept then stride.step.taken else []

def written (steps : List Stride) : Text := steps.flatMap Stride.text

theorem strides_of_step {dialect : Dialect} {brackets : List OpenBracket} {position : Position}
    {c : Char} {rest : Text} {step : Step} (inside : ¬(brackets.isEmpty && endsStatement c) = true)
    (read : nextStep dialect brackets position c rest = .ok step) :
    strides dialect brackets position (c :: rest) =
      ⟨brackets, step⟩ ::
        strides dialect step.brackets (position.advance step.taken) step.rest := by
  rw [strides, if_neg inside]
  split
  · rename_i failed
    rw [failed] at read
    cases read
  · rename_i found
    rw [found] at read
    cases read
    rfl

theorem text_eq_written {dialect : Dialect} {brackets : List OpenBracket} {position : Position}
    {t : Text} {prelude : Prelude}
    (read : readPrelude dialect brackets position t = .ok prelude) :
    prelude.text = written (strides dialect brackets position t) := by
  fun_induction readPrelude dialect brackets position t generalizing prelude
  case case1 =>
    cases read
    rw [strides]
    rfl
  case case2 => cases read
  case case3 ended =>
    cases read
    rw [strides, if_pos ended]
    rfl
  case case4 => cases read
  case case5 inside step found _ _ ih =>
    obtain ⟨tail, following, rfl⟩ := exists_of_map_eq_ok read
    rw [strides_of_step inside found, written, List.flatMap_cons, ← written, ← ih following,
      Stride.text]
    split <;> rfl

end ClassLint
