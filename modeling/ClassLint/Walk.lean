import ClassLint.Nesting

/-! Visiting the selectors of every rule, parents before children and in the order written. -/

namespace ClassLint

/-- What a visitor wants next: the other selectors of the rule, or to leave them out. Rules inside
are visited either way. -/
inductive Flow where
  | proceed
  | stop
  deriving DecidableEq, Repr

/-- A traversal with a state of the visitor's own that may end with an error. -/
abbrev Walk (σ ε : Type) := ExceptT ε (StateT σ Journaled)

abbrev Visitor (σ ε : Type) := StyleRule → Selector → Walk σ ε Flow

variable {σ ε : Type}

def visitSelectors (visit : Visitor σ ε) (rule : StyleRule) : List Selector → Walk σ ε Unit
  | [] => pure ()
  | selector :: rest => do
    Journal.record (.visited rule.selector selector.text)
    match ← visit rule selector with
    | .proceed => visitSelectors visit rule rest
    | .stop => pure ()

def visitRule (raise : SelectorError → ε) (visit : Visitor σ ε) (lineage : Lineage)
    (rule : StyleRule) : Walk σ ε Unit := do
  match ← flatten rule lineage with
  | .error error => throw (raise error)
  | .ok selectors => visitSelectors visit rule selectors

mutual

def walkNode (raise : SelectorError → ε) (visit : Visitor σ ε) (lineage : Lineage) :
    Node → Walk σ ε Unit
  | .rule head children => do
    visitRule raise visit lineage head
    walkNodes raise visit (lineage.enter (.rule head children)) children
  | .atBlock head children =>
    walkNodes raise visit (lineage.enter (.atBlock head children)) children
  | .atStatement _ | .declaration _ | .comment _ => pure ()

def walkNodes (raise : SelectorError → ε) (visit : Visitor σ ε) (lineage : Lineage) :
    List Node → Walk σ ε Unit
  | [] => pure ()
  | node :: rest => do
    walkNode raise visit lineage node
    walkNodes raise visit lineage rest

end

def walk (raise : SelectorError → ε) (visit : Visitor σ ε) (sheet : Sheet) : Walk σ ε Unit :=
  walkNodes raise visit [] sheet

end ClassLint
