import ClassLint.Dialect
import ClassLint.Sheet.Error
import ClassLint.Text.Comment

/-! The text of a statement, up to the brace or semicolon that ends it. -/

namespace ClassLint

/-- The rest of a string after its opening quote. A string ends on its line unless the line feed is
escaped. -/
def takeQuoted (quote : Char) : Text → Option Taken
  | [] => none
  | '\\' :: c :: rest => (takeQuoted quote rest).map fun taken => (taken.push c).push '\\'
  | c :: rest =>
    if c = '\n' then none
    else if c = quote then some ([c], rest)
    else (takeQuoted quote rest).map (Taken.push c)

theorem takeQuoted_append {quote : Char} {t : Text} {taken : Taken}
    (read : takeQuoted quote t = some taken) : taken.1 ++ taken.2 = t := by
  fun_induction takeQuoted quote t generalizing taken
  case case1 => simp at read
  case case3 => simp at read
  case case4 =>
    injection read with same
    simp [← same]
  all_goals
    obtain ⟨inner, tail, rfl⟩ := Option.map_eq_some_iff.1 read
    simp_all [Taken.push]

structure OpenBracket where
  mark : Char
  position : Position
  deriving DecidableEq, Repr

def OpenBracket.closedBy (bracket : OpenBracket) (c : Char) : Bool :=
  match bracket.mark, c with
  | '(', ')' | '[', ']' | '{', '}' => true
  | _, _ => false

def closesLast (brackets : List OpenBracket) (c : Char) : Bool :=
  match brackets with
  | bracket :: _ => bracket.closedBy c
  | [] => false

/-- One step of a statement: the text taken from the source, whether it is kept, and the brackets
open after it. -/
structure Step where
  taken : Text
  kept : Bool
  brackets : List OpenBracket
  rest : Text
  deriving DecidableEq, Repr

/-- A line comment is dropped from a statement where no bracket is open. -/
def nextStep (dialect : Dialect) (brackets : List OpenBracket) (position : Position) (c : Char)
    (rest : Text) : Except SheetError Step :=
  match c, rest with
  | '"', rest | '\'', rest =>
    match takeQuoted c rest with
    | none => .error ⟨.unclosedString, position⟩
    | some taken => .ok ⟨c :: taken.1, true, brackets, taken.2⟩
  | '/', '*' :: rest =>
    match takeComment rest with
    | none => .error ⟨.unclosedComment, position⟩
    | some taken => .ok ⟨'/' :: '*' :: taken.1 ++ ['*', '/'], true, brackets, taken.2⟩
  | '\\', escaped :: rest => .ok ⟨['\\', escaped], true, brackets, rest⟩
  | c, rest =>
    if c = '/' && rest.head? = some '/' && dialect = .scss && brackets.isEmpty then
      .ok ⟨c :: rest.takeWhile (· ≠ '\n'), false, brackets, rest.dropWhile (· ≠ '\n')⟩
    else if c = '#' && rest.head? = some '{' && dialect = .scss then
      .ok ⟨['#', '{'], true, ⟨'{', position⟩ :: brackets, rest.tail⟩
    else if c = '(' || c = '[' then .ok ⟨[c], true, ⟨c, position⟩ :: brackets, rest⟩
    else if closesLast brackets c then .ok ⟨[c], true, brackets.tail, rest⟩
    else .ok ⟨[c], true, brackets, rest⟩

theorem nextStep_append {dialect : Dialect} {brackets : List OpenBracket} {position : Position}
    {c : Char} {rest : Text} {step : Step}
    (read : nextStep dialect brackets position c rest = .ok step) :
    step.taken ++ step.rest = c :: rest := by
  unfold nextStep at read
  split at read
  case h_5 => grind [List.takeWhile_append_dropWhile, List.head?_eq_some_iff]
  all_goals grind [→ takeQuoted_append, → takeComment_append]

theorem nextStep_taken_ne_nil {dialect : Dialect} {brackets : List OpenBracket}
    {position : Position} {c : Char} {rest : Text} {step : Step}
    (read : nextStep dialect brackets position c rest = .ok step) : step.taken ≠ [] := by
  unfold nextStep at read
  grind

structure Prelude where
  text : Text
  rest : Text
  position : Position
  deriving DecidableEq, Repr

def endsStatement (c : Char) : Bool := c = '{' || c = ';' || c = '}'

def readPrelude (dialect : Dialect) (brackets : List OpenBracket) (position : Position)
    (t : Text) : Except SheetError Prelude :=
  match t with
  | [] =>
    match brackets with
    | [] => .ok ⟨[], [], position⟩
    | bracket :: _ => .error ⟨.unclosedBracket bracket.mark, bracket.position⟩
  | c :: rest =>
    if brackets.isEmpty && endsStatement c then .ok ⟨[], c :: rest, position⟩
    else
      match read : nextStep dialect brackets position c rest with
      | .error error => .error error
      | .ok step =>
        have := congrArg List.length (nextStep_append read)
        have := List.length_pos_iff.2 (nextStep_taken_ne_nil read)
        (readPrelude dialect step.brackets (position.advance step.taken) step.rest).map fun tail =>
          if step.kept then { tail with text := step.taken ++ tail.text } else tail
termination_by t.length
decreasing_by simp_all; omega

end ClassLint
