import ClassLint.Selector.Error

/-! Names, quoted strings and bracketed groups inside a selector. Every reader returns what it took
and what follows; together they are the text it was given. -/

namespace ClassLint

def isNameStart (c : Char) : Bool := c.isAlpha || c = '_' || 128 ≤ c.toNat

def isNameCharacter (c : Char) : Bool := isNameStart c || c.isDigit || c = '-'

def isQuote (c : Char) : Bool := c = '"' || c = '\''

structure Bracket where
  opening : Char
  closing : Char
  construct : Construct
  deriving DecidableEq, Repr

def Bracket.braces : Bracket := ⟨'{', '}', .interpolation⟩
def Bracket.square : Bracket := ⟨'[', ']', .attribute⟩
def Bracket.round : Bracket := ⟨'(', ')', .parenthesis⟩

/-- The rest of a group whose bracket stands open `depth + 1` times, inside the quotes given if
there are any. Brackets in a quoted string or after a backslash do not count. -/
def takeGroup (bracket : Bracket) : Option Char → Nat → Text → Except Construct Taken
  | some _, _, [] => .error .string
  | none, _, [] => .error bracket.construct
  | quote, depth, '\\' :: c :: rest =>
    (takeGroup bracket quote depth rest).map fun taken => (taken.push c).push '\\'
  | some quote, depth, c :: rest =>
    (takeGroup bracket (if c = quote then none else some quote) depth rest).map (Taken.push c)
  | none, depth, c :: rest =>
    if isQuote c then (takeGroup bracket (some c) depth rest).map (Taken.push c)
    else if c = bracket.opening then (takeGroup bracket none (depth + 1) rest).map (Taken.push c)
    else if c = bracket.closing then
      match depth with
      | 0 => .ok ([c], rest)
      | depth + 1 => (takeGroup bracket none depth rest).map (Taken.push c)
    else (takeGroup bracket none depth rest).map (Taken.push c)

theorem takeGroup_append {bracket : Bracket} {quote : Option Char} {depth : Nat} {t : Text}
    {taken : Taken} (read : takeGroup bracket quote depth t = .ok taken) :
    taken.1 ++ taken.2 = t := by
  fun_induction takeGroup bracket quote depth t generalizing taken
  case case1 => simp at read
  case case2 => simp at read
  case case7 =>
    injection read with same
    simp [← same]
  all_goals
    obtain ⟨inner, read, rfl⟩ := exists_of_map_eq_ok read
    simp_all [Taken.push]

structure Name where
  value : Text
  raw : Text
  rest : Text
  deriving DecidableEq, Repr

def Name.push (value raw : Text) (name : Name) : Name :=
  ⟨value ++ name.value, raw ++ name.raw, name.rest⟩

/-- The longest name at the start of a text, possibly empty. A backslash makes any character part of
the name, and an interpolation is part of it as a whole. -/
def takeName (t : Text) : Except Construct Name :=
  match t with
  | '\\' :: c :: rest => (takeName rest).map (Name.push [c] ['\\', c])
  | ['\\'] => .error .escape
  | '#' :: '{' :: rest =>
    match read : takeGroup .braces none 0 rest with
    | .error construct => .error construct
    | .ok taken =>
      have := congrArg List.length (takeGroup_append read)
      let group := '#' :: '{' :: taken.1
      (takeName taken.2).map (Name.push group group)
  | c :: rest =>
    if isNameCharacter c then (takeName rest).map (Name.push [c] [c]) else .ok ⟨[], [], c :: rest⟩
  | [] => .ok ⟨[], [], []⟩
termination_by t.length
decreasing_by all_goals simp_all; try omega

theorem takeName_append {t : Text} {name : Name} (read : takeName t = .ok name) :
    name.raw ++ name.rest = t := by
  fun_induction takeName t generalizing name
  case case2 => simp at read
  case case3 => simp at read
  case case4 rest taken same _ group ih =>
    obtain ⟨inner, tail, rfl⟩ := exists_of_map_eq_ok read
    simp [Name.push, group, ih tail, takeGroup_append same]
  case case6 | case7 =>
    injection read with same
    simp [← same]
  all_goals
    obtain ⟨inner, read, rfl⟩ := exists_of_map_eq_ok read
    simp_all [Name.push]

def StartsName : Text → Prop
  | '#' :: '{' :: _ => True
  | c :: _ => isNameCharacter c ∨ c = '\\'
  | [] => False

theorem takeName_raw_ne_nil {t : Text} {name : Name} (starts : StartsName t)
    (read : takeName t = .ok name) : name.raw ≠ [] := by
  unfold takeName at read
  split at read
  case h_2 => simp at read
  case h_3 =>
    split at read
    · simp at read
    · obtain ⟨inner, _, rfl⟩ := exists_of_map_eq_ok read
      simp [Name.push]
  case h_4 c rest _ _ _ =>
    split at read
    · obtain ⟨inner, _, rfl⟩ := exists_of_map_eq_ok read
      simp [Name.push]
    · unfold StartsName at starts
      cases rest <;> grind
  case h_5 => simp [StartsName] at starts
  all_goals
    obtain ⟨inner, _, rfl⟩ := exists_of_map_eq_ok read
    simp [Name.push]

end ClassLint
