import ClassLint.Regex.Parser
import ClassLint.Regex.Program

/-! The flags in force at a place of a pattern, and what characters and classes mean under them. -/

namespace ClassLint.Regex

structure Mode where
  ignoreCase : Bool
  multiLine : Bool
  dotAll : Bool
  swapGreed : Bool
  unicode : Bool
  crlf : Bool
  deriving DecidableEq, Repr

namespace Mode

def start : Mode := ⟨false, false, false, false, true, false⟩

def apply (mode : Mode) (change : FlagChange) : Mode where
  ignoreCase := (change.setting? .ignoreCase).getD mode.ignoreCase
  multiLine := (change.setting? .multiLine).getD mode.multiLine
  dotAll := (change.setting? .dotAll).getD mode.dotAll
  swapGreed := (change.setting? .swapGreed).getD mode.swapGreed
  unicode := (change.setting? .unicode).getD mode.unicode
  crlf := (change.setting? .crlf).getD mode.crlf

def fold (mode : Mode) (set : CharSet) : CharSet :=
  if mode.ignoreCase then if mode.unicode then set.folded else set.asciiFolded else set

/-- Without Unicode a complement would hold bytes that are no characters, and is refused. -/
def negate? (mode : Mode) (negated : Bool) (set : CharSet) : Option CharSet :=
  if negated then if mode.unicode then some set.complement else none else some set

def shorthand (mode : Mode) : Shorthand → CharSet
  | .digit => if mode.unicode then .digit else Posix.digit.set
  | .blank => if mode.unicode then .blank else Posix.space.set
  | .word => if mode.unicode then .word else Posix.word.set

def shorthand? (mode : Mode) (kind : Shorthand) (negated : Bool) : Option CharSet :=
  mode.negate? negated (mode.shorthand kind)

def property? (mode : Mode) (query : PropertyQuery) (negated : Bool) : Option CharSet :=
  if mode.unicode then (query.set?).bind fun set => mode.negate? negated (mode.fold set) else none

def classScalar? (mode : Mode) (scalar : Scalar) : Option Char :=
  if mode.unicode || scalar.value.toNat < 128 then some scalar.value else none

def anchor (mode : Mode) : Anchor → Look
  | .lineStart =>
    if mode.multiLine then if mode.crlf then .lineStartCrlf else .lineStart else .textStart
  | .lineEnd => if mode.multiLine then if mode.crlf then .lineEndCrlf else .lineEnd else .textEnd
  | .textStart => .textStart
  | .textEnd => .textEnd
  | .boundary => .boundary (mode.shorthand .word)
  | .noBoundary => .noBoundary (mode.shorthand .word)
  | .wordStart => .wordStart (mode.shorthand .word)
  | .wordEnd => .wordEnd (mode.shorthand .word)
  | .wordStartHalf => .wordStartHalf (mode.shorthand .word)
  | .wordEndHalf => .wordEndHalf (mode.shorthand .word)

def dot? (mode : Mode) : Option CharSet :=
  if !mode.unicode then none
  else if mode.dotAll then some .any
  else if mode.crlf then some (.complement (.ofRanges [('\r', '\r'), ('\n', '\n')]))
  else some (.complement (.singleton '\n'))

def scalar? (mode : Mode) (scalar : Scalar) : Option CharSet :=
  if !mode.unicode && scalar.byte && 128 ≤ scalar.value.toNat then none
  else some (mode.fold (.singleton scalar.value))

end Mode

mutual

def ClassExpr.set? (mode : Mode) : ClassExpr → Option CharSet
  | .empty => some .nothing
  | .scalar s => (mode.classScalar? s).map .singleton
  | .range low high => do return .range (← mode.classScalar? low) (← mode.classScalar? high)
  | .posix kind negated => mode.negate? negated (mode.fold kind.set)
  | .property query negated => mode.property? query negated
  | .shorthand kind negated => mode.shorthand? kind negated
  | .bracketed set negated => do mode.negate? negated (mode.fold (← set.set? mode))
  | .union items => (ClassExpr.sets? mode items).map .unionAll
  | .operation operator left right => do
    let left := mode.fold (← left.set? mode)
    let right := mode.fold (← right.set? mode)
    match operator with
    | .intersection => return left.intersection right
    | .difference => return left.difference right
    | .symmetricDifference => return left.symmetricDifference right

def ClassExpr.sets? (mode : Mode) : List ClassExpr → Option (List CharSet)
  | [] => some []
  | item :: items => do return (← item.set? mode) :: (← ClassExpr.sets? mode items)

end

mutual

/-- The program of an expression, and the flags in force after it. A change of flags lasts to the
end of the group it stands in. -/
def Expr.program? (mode : Mode) : Expr → Option (Program × Mode)
  | .empty => some (.empty, mode)
  | .flags change => some (.empty, mode.apply change)
  | .scalar s => (mode.scalar? s).map fun set => (.ofSet set, mode)
  | .dot => mode.dot?.map fun set => (.ofSet set, mode)
  | .anchor a => some (.look (mode.anchor a), mode)
  | .property query negated => (mode.property? query negated).map fun set => (.ofSet set, mode)
  | .shorthand kind negated => (mode.shorthand? kind negated).map fun set => (.ofSet set, mode)
  | .bracketed set negated => do
    return (.ofSet (← mode.negate? negated (mode.fold (← set.set? mode))), mode)
  | .repetition body least most? lazy => do
    let (program, after) ← body.program? mode
    return (.repetition program least most? (lazy != after.swapGreed), after)
  | .group number? change body => do
    let (program, _) ← body.program? (mode.apply change)
    match number? with
    | some number => return (.capture number program, mode)
    | none => return (program, mode)
  | .alternation branches => do
    let (programs, mode) ← Expr.programs? mode branches
    return (.ofBranches programs, mode)
  | .concatenation items => do
    let (programs, mode) ← Expr.programs? mode items
    return (.ofItems programs, mode)

def Expr.programs? (mode : Mode) : List Expr → Option (List Program × Mode)
  | [] => some ([], mode)
  | item :: items => do
    let (program, mode) ← item.program? mode
    let (programs, mode) ← Expr.programs? mode items
    return (program :: programs, mode)

end

end ClassLint.Regex
