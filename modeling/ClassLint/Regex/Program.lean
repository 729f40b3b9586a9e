import ClassLint.Regex.CharSet

/-! Regular expressions with their flags resolved, in a simplified form. -/

namespace ClassLint.Regex

inductive Look where
  | textStart
  | textEnd
  | lineStart
  | lineEnd
  | lineStartCrlf
  | lineEndCrlf
  | boundary (letters : CharSet)
  | noBoundary (letters : CharSet)
  | wordStart (letters : CharSet)
  | wordEnd (letters : CharSet)
  | wordStartHalf (letters : CharSet)
  | wordEndHalf (letters : CharSet)
  deriving DecidableEq, Repr

inductive Program where
  | empty
  | literal (text : Text)
  | set (set : CharSet)
  | look (look : Look)
  | capture (number : Nat) (body : Program)
  /-- The body `least` times or more, but no more than `most?` times. -/
  | loop (body : Program) (least : Nat) (most? : Option Nat) (lazy : Bool)
  | sequence (items : List Program)
  | choice (branches : List Program)

namespace Program

mutual

def same : Program → Program → Bool
  | .empty, .empty => true
  | .literal a, .literal b => a = b
  | .set a, .set b => a = b
  | .look a, .look b => a = b
  | .capture m a, .capture n b => m = n && same a b
  | .loop a least most? lazy, .loop b least' most?' lazy' =>
    least = least' && most? = most?' && lazy = lazy' && same a b
  | .sequence a, .sequence b => sameList a b
  | .choice a, .choice b => sameList a b
  | _, _ => false

def sameList : List Program → List Program → Bool
  | [], [] => true
  | a :: as, b :: bs => same a b && sameList as bs
  | _, _ => false

end

mutual

def size : Program → Nat
  | .capture _ body => body.size + 1
  | .loop body _ _ _ => body.size + 1
  | .sequence items => sizeOfList items + 1
  | .choice branches => sizeOfList branches + 1
  | _ => 1

def sizeOfList : List Program → Nat
  | [] => 0
  | item :: items => item.size + sizeOfList items

end

mutual

/-- The least number of characters a match takes, unless a part of the program never matches. -/
def leastLength? : Program → Option Nat
  | .empty | .look _ => some 0
  | .literal t => some t.length
  | .set s => if s.ranges.isEmpty then none else some 1
  | .capture _ body => body.leastLength?
  | .loop body least _ _ => body.leastLength?.map (least * ·)
  | .sequence items => leastOfItems? items
  | .choice branches => leastOfBranches? branches

def leastOfItems? : List Program → Option Nat
  | [] => some 0
  | item :: items => do return (← item.leastLength?) + (← leastOfItems? items)

def leastOfBranches? : List Program → Option Nat
  | [] => none
  | [branch] => branch.leastLength?
  | branch :: branches => do return min (← branch.leastLength?) (← leastOfBranches? branches)

end

mutual

def takesNothing : Program → Bool
  | .empty | .look _ => true
  | .literal _ | .set _ => false
  | .capture _ body | .loop body _ _ _ => body.takesNothing
  | .sequence items | .choice items => allTakeNothing items

def allTakeNothing : List Program → Bool
  | [] => true
  | item :: items => item.takesNothing && allTakeNothing items

end

mutual

/-- Whether every match has to start where a condition holds. Read backward, a match starts at its
last item. -/
def startsWith (look : Look) (backward : Bool) : Program → Bool
  | .look l => l = look
  | .capture _ body => body.startsWith look backward
  | .loop body least _ _ => least ≠ 0 && body.startsWith look backward
  | .sequence items =>
    if backward then endingStartsWith look items else anyStartsWith look items
  | .choice branches => allStartWith look backward branches
  | .empty | .literal _ | .set _ => false

def anyStartsWith (look : Look) : List Program → Bool
  | [] => false
  | item :: items =>
    item.startsWith look false || (item.takesNothing && anyStartsWith look items)

def endingStartsWith (look : Look) : List Program → Bool
  | [] => false
  | item :: items =>
    endingStartsWith look items || (allTakeNothing items && item.startsWith look true)

def allStartWith (look : Look) (backward : Bool) : List Program → Bool
  | [] => true
  | branch :: branches =>
    branch.startsWith look backward && allStartWith look backward branches

end

def ofSet (set : CharSet) : Program :=
  match set.only? with
  | some c => .literal [c]
  | none => .set set

/-- A repetition of what takes no character changes nothing after the first round. -/
def repetition (body : Program) (least : Nat) (most? : Option Nat) (lazy : Bool) : Program :=
  let least := if body.takesNothing then min least 1 else least
  let most? := if body.takesNothing then some (min (most?.getD 1) 1) else most?
  if most? = some 0 then .empty
  else if least = 1 && most? = some 1 then body
  else .loop body least most? lazy

def items : Program → List Program
  | .empty => []
  | .sequence items => items
  | item => [item]

/-- Literals that stand side by side are one literal. -/
def joinLiterals : List Program → List Program
  | [] => []
  | item :: items =>
    match item, joinLiterals items with
    | .literal a, .literal b :: joined => .literal (a ++ b) :: joined
    | item, joined => item :: joined

def ofItems (list : List Program) : Program :=
  match joinLiterals (list.flatMap items) with
  | [] => .empty
  | [item] => item
  | joined => .sequence joined

def alternatives : Program → List Program
  | .choice branches => branches
  | branch => [branch]

def onlyChar? : Program → Option CharSet
  | .literal [c] => some (.singleton c)
  | _ => none

def onlySet? : Program → Option CharSet
  | .set s => some s
  | _ => none

/-- One set in place of branches that take one character each, if these are all written as
characters or all as sets. -/
def setOfBranches? (branches : List Program) : Option CharSet :=
  ((branches.mapM onlyChar?).orElse fun _ => branches.mapM onlySet?).map CharSet.unionAll

def onlyItems? : Program → Option (List Program)
  | .sequence items => some items
  | _ => none

def sharedStart : List Program → List Program → List Program
  | a :: as, b :: bs => if same a b then a :: sharedStart as bs else []
  | _, _ => []

def sharedItems (branches : List Program) : List Program :=
  match branches.mapM onlyItems? with
  | some (first :: more) => more.foldl sharedStart first
  | _ => []

/-- A choice of branches, with the items that all of them start with written once. -/
def choose : Nat → List Program → Program
  | 0, branches => .choice branches
  | fuel + 1, branches =>
    match branches.flatMap alternatives with
    | [] => .set .nothing
    | [branch] => branch
    | branches =>
      match setOfBranches? branches, sharedItems branches with
      | some members, _ => ofSet members
      | none, [] => .choice branches
      | none, shared =>
        let rests := branches.map fun branch => ofItems (branch.items.drop shared.length)
        ofItems (shared ++ [choose fuel rests])

def ofBranches (branches : List Program) : Program := choose (sizeOfList branches + 1) branches

end Program

end ClassLint.Regex
