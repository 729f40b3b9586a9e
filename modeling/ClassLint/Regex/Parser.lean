import ClassLint.Regex.ClassParser

/-! Reading a regular expression. -/

namespace ClassLint.Regex

/-- A group that is still open: its number if it captures, its flags, whether the pattern around it
is verbose, its finished branches and the items of the branch being read, both last first. -/
structure Scope where
  number? : Option Nat
  change : FlagChange
  outerVerbose : Bool
  branches : List Expr
  items : List Expr

namespace Scope

def push (scope : Scope) (item : Expr) : Scope := { scope with items := item :: scope.items }

def branch (scope : Scope) : Scope :=
  { scope with branches := .ofItems scope.items.reverse :: scope.branches, items := [] }

def body (scope : Scope) : Expr := .ofBranches scope.branch.branches.reverse

def repeatLast? (scope : Scope) (least : Nat) (most? : Option Nat) (lazy : Bool) : Option Scope :=
  match scope.items with
  | item :: items =>
    if item.isRepeatable then
      some { scope with items := .repetition item least most? lazy :: items }
    else none
  | [] => none

end Scope

/-- Letters that set flags, and after a minus sign letters that clear them, up to a colon or closing
parenthesis. No flag may come twice, and a minus sign needs a letter after it. -/
def readFlags (clearing : Bool) (dangling : Bool) (change : FlagChange) :
    Text → Option (FlagChange × Bool × Text)
  | [] => none
  | ':' :: rest => if dangling then none else some (change.reverse, true, rest)
  | ')' :: rest => if dangling then none else some (change.reverse, false, rest)
  | '-' :: rest => if clearing then none else readFlags true true change rest
  | c :: rest => do
    let flag ← Flag.ofLetter? c
    if (change.setting? flag).isSome then none
    readFlags clearing false ((flag, !clearing) :: change) rest

def isCaptureStart (c : Char) : Bool := c = '_' || isAlphabetic c

def isCaptureCharacter (c : Char) : Bool :=
  c = '_' || c = '.' || c = '[' || c = ']' || isAlphanumeric c

def readCaptureName (t : Text) : Option Taken :=
  match t.takeWhile (· ≠ '>'), t.dropWhile (· ≠ '>') with
  | c :: name, '>' :: rest =>
    if isCaptureStart c && name.all isCaptureCharacter then some (c :: name, rest) else none
  | _, _ => none

inductive Opening where
  | capture (name? : Option Text)
  | group (change : FlagChange)
  | flags (change : FlagChange)
  deriving Repr

/-- Lookaround is refused, and so are flags without a letter. -/
def readOpening (t : Text) : Option (Opening × Text) :=
  match t with
  | '?' :: '=' :: _ | '?' :: '!' :: _ | '?' :: '<' :: '=' :: _ | '?' :: '<' :: '!' :: _ => none
  | '?' :: 'P' :: '<' :: rest | '?' :: '<' :: rest => do
    let (name, rest) ← readCaptureName rest
    return (.capture (some name), rest)
  | '?' :: rest => do
    let (change, isGroup, rest) ← readFlags false false [] rest
    if isGroup then return (.group change, rest)
    if change.isEmpty then none
    return (.flags change, rest)
  | t => some (.capture none, t)

def takeCountDigits (verbose inComment : Bool) : Text → Taken
  | [] => ([], [])
  | c :: rest =>
    if inComment then takeCountDigits verbose (c ≠ '\n') rest
    else if c.isDigit then (takeCountDigits verbose false rest).push c
    else if verbose && isBlank c then takeCountDigits verbose false rest
    else if verbose && c = '#' then takeCountDigits verbose true rest
    else ([], c :: rest)

/-- A count below `2 ^ 32`, with blanks on both sides. -/
def readCount (verbose : Bool) (t : Text) : Option (Nat × Text) :=
  let (digits, rest) := takeCountDigits verbose false (t.dropWhile isBlank)
  let n := Json.digitsValue digits
  if digits.isEmpty || 1 <<< 32 ≤ n then none else some (n, rest.dropWhile isBlank)

def readBounds (verbose : Bool) (t : Text) : Option (Nat × Option Nat × Text) := do
  let (least, t) ← readCount verbose (skipIf verbose t)
  match t with
  | '}' :: rest => return (least, some least, rest)
  | ',' :: rest =>
    match skipIf verbose rest with
    | '}' :: rest => return (least, none, rest)
    | t =>
      let (most, t) ← readCount verbose t
      match t with
      | '}' :: rest => if least ≤ most then return (least, some most, rest) else none
      | _ => none
  | _ => none

def readLazyMark : Text → Bool × Text
  | '?' :: rest => (true, rest)
  | rest => (false, rest)

/-- What stands before the rest of the pattern: the open groups, innermost first, of which the last
is the whole pattern, whether blanks are left out, the number of captures and their names. -/
structure ParseState where
  scope : Scope
  outer : List Scope
  verbose : Bool
  captures : Nat
  names : List Text

namespace ParseState

def start : ParseState := ⟨⟨none, [], false, [], []⟩, [], false, 0, []⟩

def push (state : ParseState) (item : Expr) : ParseState :=
  { state with scope := state.scope.push item }

def nest (state : ParseState) (number? : Option Nat) (change : FlagChange) : ParseState :=
  { state with
    scope := ⟨number?, change, state.verbose, [], []⟩
    outer := state.scope :: state.outer
    verbose := (change.setting? .verbose).getD state.verbose }

def enter? (state : ParseState) : Opening → Option ParseState
  | .flags change =>
    some { state.push (.flags change) with
      verbose := (change.setting? .verbose).getD state.verbose }
  | .group change => some (state.nest none change)
  | .capture name? =>
    if name?.any state.names.contains then none
    else
      let number := state.captures + 1
      some { state.nest (some number) [] with
        captures := number
        names := name?.toList ++ state.names }

def closeGroup? (state : ParseState) : Option ParseState :=
  match state.outer with
  | [] => none
  | scope :: outer =>
    some { state with
      scope := scope.push (.group state.scope.number? state.scope.change state.scope.body)
      outer := outer
      verbose := state.scope.outerVerbose }

def repeatLast? (state : ParseState) (least : Nat) (most? : Option Nat) (rest : Text) :
    Option (ParseState × Text) :=
  let (lazy, rest) := readLazyMark rest
  (state.scope.repeatLast? least most? lazy).map fun scope => ({ state with scope := scope }, rest)

def finish? (state : ParseState) : Option Expr :=
  if state.outer.isEmpty then some state.scope.body else none

end ParseState

def readStep (state : ParseState) (c : Char) (rest : Text) : Option (ParseState × Text) :=
  match c with
  | '(' => do
    let (opening, rest) ← readOpening (skipIf state.verbose rest)
    return (← state.enter? opening, rest)
  | ')' => do return (← state.closeGroup?, rest)
  | '|' => some ({ state with scope := state.scope.branch }, rest)
  | '[' => do
    let (item, rest) ← readBracketed state.verbose rest
    return (state.push item, rest)
  | '?' => state.repeatLast? 0 (some 1) rest
  | '*' => state.repeatLast? 0 none rest
  | '+' => state.repeatLast? 1 none rest
  | '{' => do
    let (least, most?, rest) ← readBounds state.verbose rest
    state.repeatLast? least most? (skipIf state.verbose rest)
  | '\\' => do
    let (item, rest) ← readEscape state.verbose rest
    return (state.push item, rest)
  | '.' => some (state.push .dot, rest)
  | '^' => some (state.push (.anchor .lineStart), rest)
  | '$' => some (state.push (.anchor .lineEnd), rest)
  | c => some (state.push (.scalar ⟨c, false⟩), rest)

def readExpr : Nat → ParseState → Text → Option Expr
  | 0, _, _ => none
  | fuel + 1, state, t =>
    match skipIf state.verbose t with
    | [] => state.finish?
    | c :: rest => do
      let (state, rest) ← readStep state c rest
      readExpr fuel state rest

def nestingLimit : Nat := 250

def parse? (pattern : Text) : Option Expr := do
  let expr ← readExpr (pattern.length + 1) .start pattern
  if expr.depth ≤ nestingLimit then some expr else none

end ClassLint.Regex
