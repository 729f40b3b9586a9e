import ClassLint.Regex.Escape

/-! Reading a bracketed class. -/

namespace ClassLint.Regex

/-- A bracket that is still open: the items before it in the class around it, and an operator of its
own that waits for the right side. -/
structure ClassFrame where
  negated : Bool
  outer : List ClassExpr
  pending? : Option (ClassOperator × ClassExpr)

def ClassFrame.join (frame : ClassFrame) (items : List ClassExpr) : ClassExpr :=
  let set := ClassExpr.ofItems items.reverse
  match frame.pending? with
  | some (operator, left) => .operation operator left set
  | none => set

def dash : ClassExpr := .scalar ⟨'-', false⟩

/-- Dashes at the start of a class stand for themselves. Something has to follow them. -/
def takeDashes (verbose : Bool) : Nat → List ClassExpr → Text → Option (List ClassExpr × Text)
  | 0, _, _ => none
  | fuel + 1, items, t =>
    match t with
    | [] => none
    | '-' :: rest => takeDashes verbose fuel (dash :: items) (skipIf verbose rest)
    | t => some (items, t)

/-- After an opening bracket: whether the class is negated, and the items that are literal only
there. -/
def openClass (verbose : Bool) (fuel : Nat) (t : Text) : Option (Bool × List ClassExpr × Text) := do
  let t := skipIf verbose t
  let (negated, t) := match t with
    | '^' :: rest => (true, skipIf verbose rest)
    | t => (false, t)
  let (items, t) ← takeDashes verbose fuel [] t
  match items, t with
  | [], ']' :: rest =>
    let rest := skipIf verbose rest
    if rest.isEmpty then none
    return (negated, [.scalar ⟨']', false⟩], rest)
  | items, t => return (negated, items, t)

def namedClass? (t : Text) : Option (ClassExpr × Text) :=
  match t with
  | ':' :: rest =>
    let (negated, rest) := match rest with
      | '^' :: rest => (true, rest)
      | rest => (false, rest)
    match rest.dropWhile (· ≠ ':') with
    | ':' :: ']' :: after =>
      (Posix.ofName? (rest.takeWhile (· ≠ ':'))).map fun kind => (.posix kind negated, after)
    | _ => none
  | _ => none

def readClassItem (verbose : Bool) : Text → Option (Expr × Text)
  | [] => none
  | '\\' :: rest => readEscape verbose rest
  | c :: rest => some (.scalar ⟨c, false⟩, rest)

def ClassExpr.ofExpr? : Expr → Option ClassExpr
  | .scalar s => some (.scalar s)
  | .property query negated => some (.property query negated)
  | .shorthand kind negated => some (.shorthand kind negated)
  | _ => none

/-- The next character that is not blank, looking into a comment but past its mark. -/
def peekAfterDash (verbose : Bool) (rest : Text) : Option Char :=
  if !verbose then rest.head?
  else
    let ahead := match rest.dropWhile isBlank with
      | '#' :: comment => comment.dropWhile isBlank
      | ahead => ahead
    ahead.head?.orElse fun _ => rest.head?

/-- One item, or a range. A dash before the closing bracket or before another dash is not a range. -/
def readClassRange (verbose : Bool) (t : Text) : Option (ClassExpr × Text) := do
  let (first, t) ← readClassItem verbose t
  match skipIf verbose t with
  | [] => none
  | '-' :: rest =>
    let ahead := peekAfterDash verbose rest
    if ahead = some ']' || ahead = some '-' then
      return (← ClassExpr.ofExpr? first, '-' :: rest)
    let (last, t) ← readClassItem verbose (skipIf verbose rest)
    match first, last with
    | .scalar low, .scalar high =>
      if low.value ≤ high.value then return (.range low high, t) else none
    | _, _ => none
  | t => return (← ClassExpr.ofExpr? first, t)

/-- Reads a class with the brackets open so far, innermost first, and the items of the innermost one,
last first. -/
def readClass (verbose : Bool) :
    Nat → List ClassFrame → List ClassExpr → Text → Option (Expr × Text)
  | 0, _, _, _ => none
  | _, [], _, _ => none
  | fuel + 1, frame :: frames, items, t =>
    let operator (kind : ClassOperator) (rest : Text) : Option (Expr × Text) :=
      readClass verbose fuel ({ frame with pending? := some (kind, frame.join items) } :: frames) []
        rest
    match skipIf verbose t with
    | [] => none
    | ']' :: rest =>
      let set := frame.join items
      match frames with
      | [] => some (.bracketed set frame.negated, rest)
      | _ :: _ =>
        readClass verbose fuel frames (.bracketed set frame.negated :: frame.outer) rest
    | '&' :: '&' :: rest => operator .intersection rest
    | '-' :: '-' :: rest => operator .difference rest
    | '~' :: '~' :: rest => operator .symmetricDifference rest
    | '[' :: rest =>
      match namedClass? rest with
      | some (item, rest) => readClass verbose fuel (frame :: frames) (item :: items) rest
      | none => do
        let (negated, nested, rest) ← openClass verbose fuel rest
        readClass verbose fuel (⟨negated, items, none⟩ :: frame :: frames) nested rest
    | t => do
      let (item, rest) ← readClassRange verbose t
      readClass verbose fuel (frame :: frames) (item :: items) rest

def readBracketed (verbose : Bool) (t : Text) : Option (Expr × Text) := do
  let fuel := t.length + 1
  let (negated, items, rest) ← openClass verbose fuel t
  readClass verbose fuel [⟨negated, [], none⟩] items rest

end ClassLint.Regex
