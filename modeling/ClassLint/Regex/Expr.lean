import ClassLint.Regex.CharSet

/-! Regular expressions as they are written. -/

namespace ClassLint.Regex

inductive Flag where
  | ignoreCase
  | multiLine
  | dotAll
  | swapGreed
  | unicode
  | crlf
  | verbose
  deriving DecidableEq, Repr

def Flag.ofLetter? : Char → Option Flag
  | 'i' => some .ignoreCase
  | 'm' => some .multiLine
  | 's' => some .dotAll
  | 'U' => some .swapGreed
  | 'u' => some .unicode
  | 'R' => some .crlf
  | 'x' => some .verbose
  | _ => none

abbrev FlagChange := List (Flag × Bool)

def FlagChange.setting? (change : FlagChange) (flag : Flag) : Option Bool :=
  (change.find? fun item => item.1 = flag).map Prod.snd

inductive Anchor where
  | lineStart
  | lineEnd
  | textStart
  | textEnd
  | boundary
  | noBoundary
  | wordStart
  | wordEnd
  | wordStartHalf
  | wordEndHalf
  deriving DecidableEq, Repr

inductive Shorthand where
  | digit
  | blank
  | word
  deriving DecidableEq, Repr

/-- A character as written; `byte` tells that it was given by two hexadecimal digits. -/
structure Scalar where
  value : Char
  byte : Bool
  deriving DecidableEq, Repr

inductive ClassOperator where
  | intersection
  | difference
  | symmetricDifference
  deriving DecidableEq, Repr

inductive ClassExpr where
  | empty
  | scalar (scalar : Scalar)
  | range (low high : Scalar)
  | posix (kind : Posix) (negated : Bool)
  | property (query : PropertyQuery) (negated : Bool)
  | shorthand (kind : Shorthand) (negated : Bool)
  | bracketed (set : ClassExpr) (negated : Bool)
  | union (items : List ClassExpr)
  | operation (operator : ClassOperator) (left right : ClassExpr)

def ClassExpr.ofItems : List ClassExpr → ClassExpr
  | [] => .empty
  | [item] => item
  | items => .union items

inductive Expr where
  | empty
  | flags (change : FlagChange)
  | scalar (scalar : Scalar)
  | dot
  | anchor (anchor : Anchor)
  | property (query : PropertyQuery) (negated : Bool)
  | shorthand (kind : Shorthand) (negated : Bool)
  | bracketed (set : ClassExpr) (negated : Bool)
  /-- The body `least` times or more, but no more than `most?` times. A lazy repetition prefers
  few. -/
  | repetition (body : Expr) (least : Nat) (most? : Option Nat) (lazy : Bool)
  /-- A group captures what it matches if it has a number. -/
  | group (number? : Option Nat) (change : FlagChange) (body : Expr)
  | alternation (branches : List Expr)
  | concatenation (items : List Expr)

namespace Expr

def ofItems : List Expr → Expr
  | [] => .empty
  | [item] => item
  | items => .concatenation items

def ofBranches : List Expr → Expr
  | [] => .empty
  | [branch] => branch
  | branches => .alternation branches

def isRepeatable : Expr → Bool
  | .empty | .flags _ => false
  | _ => true

end Expr

mutual

def ClassExpr.depth : ClassExpr → Nat
  | .bracketed set _ => set.depth + 1
  | .union items => ClassExpr.depthOfList items + 1
  | .operation _ left right => max left.depth right.depth + 1
  | _ => 0

def ClassExpr.depthOfList : List ClassExpr → Nat
  | [] => 0
  | item :: items => max item.depth (ClassExpr.depthOfList items)

end

mutual

def Expr.depth : Expr → Nat
  | .bracketed set _ => set.depth + 1
  | .repetition body _ _ _ => body.depth + 1
  | .group _ _ body => body.depth + 1
  | .alternation branches => Expr.depthOfList branches + 1
  | .concatenation items => Expr.depthOfList items + 1
  | _ => 0

def Expr.depthOfList : List Expr → Nat
  | [] => 0
  | item :: items => max item.depth (Expr.depthOfList items)

end

end ClassLint.Regex
