import ClassLint.Sheet.Outline
import ClassLint.Walk
import ClassLint.Proofs.Resolution

/-! The traversal of a stylesheet as a run over the list of its rules. The walker goes down the tree
with the lists of the ancestors it is inside of; every rule is met where `Sheet.placements` has it,
with those ancestors and in that order. -/

namespace ClassLint

abbrev Placement := StyleRule × List Node

variable {σ ε : Type}

namespace Walk

variable {α β : Type}

/-- A traversal that starts in one state ends with an outcome and in another state, whatever the
journal holds. -/
def Ends (action : Walk σ ε α) (state : σ) (outcome : Except ε α) (final : σ) : Prop :=
  Journaled.Answers (action.run.run state) (outcome, final)

theorem ends_pure (value : α) (state : σ) :
    Ends (pure value : Walk σ ε α) state (.ok value) state := Journaled.answers_pure _

theorem ends_bind {action : Walk σ ε α} {next : α → Walk σ ε β} {state middle final : σ} {value : α}
    {outcome : Except ε β} (first : Ends action state (.ok value) middle)
    (second : Ends (next value) middle outcome final) :
    Ends (action >>= next) state outcome final := by
  unfold Ends
  rw [ExceptT.run_bind, StateT.run_bind]
  exact Journaled.answers_bind first second

theorem ends_bind_of_error {action : Walk σ ε α} (next : α → Walk σ ε β) {state final : σ}
    {error : ε} (first : Ends action state (.error error) final) :
    Ends (action >>= next) state (.error error) final := by
  unfold Ends
  rw [ExceptT.run_bind, StateT.run_bind]
  exact Journaled.answers_bind first (Journaled.answers_pure _)

theorem ends_modify (f : σ → σ) (state : σ) :
    Ends (modifyThe σ f : Walk σ ε PUnit) state (.ok ⟨⟩) (f state) := Journaled.answers_pure _

theorem ends_lift {action : Journaled α} {value : α} (settled : Journaled.Answers action value)
    (state : σ) : Ends (liftM action : Walk σ ε α) state (.ok value) state := by
  intro journal
  exact congrArg (fun answer => (Except.ok answer, state)) (settled journal)

end Walk

theorem enter_ofAncestors (ancestors : List Node) (node : Node) :
    (Lineage.ofAncestors ancestors).enter node = .ofAncestors (node :: ancestors) := by
  rw [Lineage.enter, Lineage.ofAncestors, Lineage.ofAncestors, List.filterMap_cons]
  cases node.selectors? <;> rfl

def visitPlacement (raise : SelectorError → ε) (visit : Visitor σ ε) (placement : Placement) :
    Walk σ ε Unit :=
  visitRule raise visit (.ofAncestors placement.2) placement.1

mutual

theorem walkNode_eq_forM (raise : SelectorError → ε) (visit : Visitor σ ε) (ancestors : List Node) :
    (node : Node) → walkNode raise visit (.ofAncestors ancestors) node =
      forM (node.placements ancestors) (visitPlacement raise visit)
  | .rule head children => by
      rw [walkNode, enter_ofAncestors, walkNodes_eq_forM raise visit _ children, Node.placements,
        List.forM_cons]
      rfl
  | .atBlock head children => by
      rw [walkNode, enter_ofAncestors, walkNodes_eq_forM raise visit _ children, Node.placements]
  | .atStatement _ => rfl
  | .declaration _ => rfl
  | .comment _ => rfl

theorem walkNodes_eq_forM (raise : SelectorError → ε) (visit : Visitor σ ε)
    (ancestors : List Node) :
    (nodes : List Node) → walkNodes raise visit (.ofAncestors ancestors) nodes =
      forM (Node.placementsIn ancestors nodes) (visitPlacement raise visit)
  | [] => rfl
  | node :: rest => by
      rw [walkNodes, walkNode_eq_forM raise visit ancestors node,
        walkNodes_eq_forM raise visit ancestors rest, Node.placementsIn, List.forM_append]

end

/-- A walk visits the rules one after the other, each below its own ancestors. -/
theorem walk_eq_forM (raise : SelectorError → ε) (visit : Visitor σ ε) (sheet : Sheet) :
    walk raise visit sheet = forM sheet.placements (visitPlacement raise visit) :=
  walkNodes_eq_forM raise visit [] sheet

end ClassLint
