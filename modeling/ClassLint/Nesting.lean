import ClassLint.Journal
import ClassLint.Segment
import ClassLint.Selector.Parse
import ClassLint.Sheet.Node

/-! Resolving nested rules to selectors that stand alone. The nearest ancestor that has selectors
supplies them: each replaces the nesting mark, or stands in front where there is none. -/

namespace ClassLint

/-- Where a comma stands inside quotes or brackets, or after a backslash, it divides nothing. -/
structure CommaScan where
  quote? : Option Char
  depth : Nat
  escaped : Bool
  deriving DecidableEq, Repr

namespace CommaScan

def start : CommaScan := ⟨none, 0, false⟩

def step (scan : CommaScan) (c : Char) : CommaScan :=
  if scan.escaped then { scan with escaped := false }
  else if c = '\\' then { scan with escaped := true }
  else
    match scan.quote? with
    | some quote => if c = quote then { scan with quote? := none } else scan
    | none =>
      match c with
      | '"' | '\'' => { scan with quote? := some c }
      | '(' | '[' => { scan with depth := scan.depth + 1 }
      | ')' | ']' => { scan with depth := scan.depth - 1 }
      | _ => scan

def divides (scan : CommaScan) (c : Char) : Bool :=
  c = ',' && !scan.escaped && scan.quote?.isNone && scan.depth = 0

def separates (c : Char) (_index : Nat) : StateM CommaScan Bool :=
  modifyGet fun scan => (scan.divides c, scan.step c)

end CommaScan

def selectorTexts (raw : Text) : List Text :=
  let (segments, _) := (Segment.split CommaScan.separates raw).run CommaScan.start
  ((Segment.runs segments).map trim).filter fun t => !t.isEmpty

/-- The selectors a node supplies to the rules inside it. An at-rule supplies none unless it is for
nesting. -/
def Node.selectors? : Node → Option (List Text)
  | .rule head _ => some (selectorTexts head.selector)
  | .atBlock head _ | .atStatement head =>
    if sameLetters head.name "nest" then some (selectorTexts head.params) else none
  | _ => none

/-- What the ancestors of a rule supply: the selectors of each that has a list of them, nearest
first. -/
abbrev Lineage := List (List Text)

def Lineage.enter (lineage : Lineage) (node : Node) : Lineage :=
  match node.selectors? with
  | some selectors => selectors :: lineage
  | none => lineage

def Lineage.ofAncestors (ancestors : List Node) : Lineage := ancestors.filterMap Node.selectors?

def nestingMark : Char := '&'

def hasNesting (selector : Text) : Bool := selector.contains nestingMark

def substituteNesting (selector parent : Text) : Text :=
  match selector with
  | [] => []
  | c :: rest =>
    if c = nestingMark then parent ++ substituteNesting rest parent
    else c :: substituteNesting rest parent

def joinDescendant (parent selector : Text) : Text := parent ++ ' ' :: selector

theorem hasNesting_joinDescendant (parent selector : Text) :
    hasNesting (joinDescendant parent selector) = (hasNesting parent || hasNesting selector) := by
  simp [hasNesting, joinDescendant, nestingMark]

/-- A selector with no parent stands for itself, with a notice if it asks for one. -/
def resolveOutermost (selector : Text) : Journaled Text := do
  if hasNesting selector then
    let _ ← Journal.notify "flatten"
      ("nesting selector '&' outside of a rule: " ++ cited selector)
  return selector

def resolveAllFrom (nested : Bool) (selector : Text) : Lineage → Journaled (List Text)
  | [] => do return [← resolveOutermost selector]
  | parents :: outer => do
    let resolved ← parents.mapM fun parent =>
      if nested then do
        return (← resolveAllFrom (hasNesting parent) parent outer).map (substituteNesting selector)
      else resolveAllFrom (hasNesting parent) (joinDescendant parent selector) outer
    return resolved.flatten

def resolveAll (selector : Text) (lineage : Lineage) : Journaled (List Text) :=
  resolveAllFrom (hasNesting selector) selector lineage

def resolveFirstFrom (nested : Bool) (selector : Text) : Lineage → Journaled (Option Text)
  | [] => do return some (← resolveOutermost selector)
  | [] :: _ => return none
  | (parent :: _) :: outer =>
    if nested then do
      return (← resolveFirstFrom (hasNesting parent) parent outer).map (substituteNesting selector)
    else resolveFirstFrom (hasNesting parent) (joinDescendant parent selector) outer

/-- The first of the resolutions, found without the others. There is none where an ancestor has an
empty list of selectors. -/
def resolveFirst (selector : Text) (lineage : Lineage) : Journaled (Option Text) :=
  resolveFirstFrom (hasNesting selector) selector lineage

/-- The selectors of a rule as if it stood at the top. -/
def flatten (rule : StyleRule) (lineage : Lineage) :
    Journaled (Except SelectorError (List Selector)) := do
  let resolved? ← resolveFirst rule.selector lineage
  return Selector.parseList (resolved?.getD rule.selector)

end ClassLint
