import ClassLint.Proofs.Diagnosis
import Mathlib.Data.List.Lex

/-! The calls of a walk. What a visitor is called with and answers is written down as it happens;
the calls are those that the list of placed style rules asks for, each rule up to the first of its
selectors that the visitor does not go on from. The list itself is in the order of the tree. -/

namespace ClassLint

/-! ### Placements in the order of the tree -/

/-- A path of child indices leads to a placed style rule: the nodes on the way are its ancestors. -/
def Sheet.LeadsTo (sheet : Sheet) (ancestors : List Node) (path : List Nat)
    (placement : Placement) : Prop :=
  ∃ children, sheet.descend? ancestors path = some (.rule placement.1 children :: placement.2)

namespace Node

mutual

/-- The paths from a node to the style rules at and below it. -/
def rulePaths : Node → List (List Nat)
  | .rule _ children => [] :: rulePathsFrom 0 children
  | .atBlock _ children => rulePathsFrom 0 children
  | _ => []

def rulePathsFrom (index : Nat) : List Node → List (List Nat)
  | [] => []
  | node :: rest => node.rulePaths.map (index :: ·) ++ rulePathsFrom (index + 1) rest

end

theorem leadsTo_cons_iff {sheet : Sheet} {ancestors : List Node} {index : Nat} {node : Node}
    {path : List Nat} {placement : Placement} (found : sheet[index]? = some node) :
    sheet.LeadsTo ancestors (index :: path) placement ↔
      Sheet.LeadsTo node.children (node :: ancestors) path placement := by
  rw [Sheet.LeadsTo, Sheet.descend?, found]
  rfl

theorem exists_child_of_leadsTo {sheet : Sheet} {ancestors : List Node} {index : Nat}
    {path : List Nat} {placement : Placement}
    (leads : sheet.LeadsTo ancestors (index :: path) placement) :
    ∃ node : Node, sheet[index]? = some node ∧
      Sheet.LeadsTo node.children (node :: ancestors) path placement := by
  cases found : sheet[index]? with
  | some node => exact ⟨node, rfl, (leadsTo_cons_iff found).mp leads⟩
  | none =>
      obtain ⟨children, same⟩ := leads
      rw [Sheet.descend?, found] at same
      cases same

mutual

theorem forall₂_rulePaths (ancestors : List Node) (node : Node) :
    List.Forall₂ (Sheet.LeadsTo node.children (node :: ancestors)) node.rulePaths
      (node.placements ancestors) := by
  cases node with
  | rule head children =>
      rw [rulePaths, placements]
      exact .cons ⟨children, rfl⟩ (forall₂_rulePathsFrom _ [] children)
  | atBlock head children =>
      rw [rulePaths, placements]
      exact forall₂_rulePathsFrom _ [] children
  | atStatement | declaration | comment => exact .nil

theorem forall₂_rulePathsFrom (ancestors before nodes : List Node) :
    List.Forall₂ (Sheet.LeadsTo (before ++ nodes) ancestors)
      (rulePathsFrom before.length nodes) (placementsIn ancestors nodes) := by
  cases nodes with
  | nil => exact .nil
  | cons node rest =>
      have found : (before ++ node :: rest)[before.length]? = some node := by simp
      have later := forall₂_rulePathsFrom ancestors (before ++ [node]) rest
      rw [List.length_append, List.append_assoc] at later
      rw [rulePathsFrom, placementsIn]
      apply List.rel_append _ later
      rw [List.forall₂_map_left_iff]
      apply (forall₂_rulePaths ancestors node).imp
      intro path placement leads
      exact (leadsTo_cons_iff found).mpr leads

end

theorem exists_of_mem_rulePathsFrom {index : Nat} {nodes : List Node} {path : List Nat}
    (member : path ∈ rulePathsFrom index nodes) :
    ∃ first rest, path = first :: rest ∧ index ≤ first := by
  induction nodes generalizing index with
  | nil => cases member
  | cons node rest ih =>
      rw [rulePathsFrom, List.mem_append] at member
      rcases member with here | later
      · obtain ⟨path, -, rfl⟩ := List.mem_map.mp here
        exact ⟨index, path, rfl, le_rfl⟩
      · obtain ⟨first, path, rfl, after⟩ := ih later
        exact ⟨first, path, rfl, by omega⟩

mutual

/-- Paths come in lexicographic order: a parent before its children, and these as written. -/
theorem pairwise_rulePaths (node : Node) : node.rulePaths.Pairwise (· < ·) := by
  cases node with
  | rule head children =>
      rw [rulePaths, List.pairwise_cons]
      refine ⟨?_, pairwise_rulePathsFrom 0 children⟩
      intro path member
      obtain ⟨first, rest, rfl, -⟩ := exists_of_mem_rulePathsFrom member
      exact List.nil_lt_cons first rest
  | atBlock head children => exact pairwise_rulePathsFrom 0 children
  | atStatement | declaration | comment => exact .nil

theorem pairwise_rulePathsFrom (index : Nat) (nodes : List Node) :
    (rulePathsFrom index nodes).Pairwise (· < ·) := by
  cases nodes with
  | nil => exact .nil
  | cons node rest =>
      rw [rulePathsFrom, List.pairwise_append]
      refine ⟨?_, pairwise_rulePathsFrom (index + 1) rest, ?_⟩
      · rw [List.pairwise_map]
        apply (pairwise_rulePaths node).imp
        intro path later before
        exact List.cons_lt_cons_iff.mpr (.inr ⟨rfl, before⟩)
      · intro path here other there
        obtain ⟨inner, -, rfl⟩ := List.mem_map.mp here
        obtain ⟨first, outer, rfl, after⟩ := exists_of_mem_rulePathsFrom there
        exact List.cons_lt_cons_iff.mpr (.inl after)

end

theorem mem_rulePathsFrom (index : Nat) {offset : Nat} {nodes : List Node} {node : Node}
    {path : List Nat} (found : nodes[offset]? = some node) (member : path ∈ node.rulePaths) :
    (index + offset) :: path ∈ rulePathsFrom index nodes := by
  induction nodes generalizing index offset with
  | nil => cases found
  | cons first rest ih =>
      rw [rulePathsFrom, List.mem_append]
      cases offset with
      | zero =>
          cases found
          exact .inl (List.mem_map_of_mem member)
      | succ offset =>
          right
          rw [Nat.add_comm offset 1, ← Nat.add_assoc]
          exact ih (index + 1) found

theorem mem_rulePaths_of_children {node : Node} {path : List Nat}
    (member : path ∈ rulePathsFrom 0 node.children) : path ∈ node.rulePaths := by
  cases node with
  | rule head children => exact List.mem_cons_of_mem _ member
  | atBlock head children => exact member
  | atStatement | declaration | comment => cases member

theorem mem_rulePaths {node : Node} {ancestors : List Node} {path : List Nat}
    {placement : Placement}
    (leads : Sheet.LeadsTo node.children (node :: ancestors) path placement) :
    path ∈ node.rulePaths := by
  induction path generalizing node ancestors with
  | nil =>
      obtain ⟨children, same⟩ := leads
      cases same
      exact List.mem_cons_self
  | cons index path ih =>
      obtain ⟨child, found, inner⟩ := exists_child_of_leadsTo leads
      have member := mem_rulePathsFrom 0 found (ih inner)
      rw [Nat.zero_add] at member
      exact mem_rulePaths_of_children member

end Node

/-- A list of style rules with their ancestors has the order of the tree: the paths that lead to
its entries are all those to a style rule, and they increase. -/
def Sheet.Preorder (sheet : Sheet) (placements : List Placement) : Prop :=
  ∃ paths : List (List Nat), paths.Pairwise (· < ·) ∧
    List.Forall₂ (sheet.LeadsTo []) paths placements ∧
    ∀ path placement, sheet.LeadsTo [] path placement → path ∈ paths

theorem preorder_placements (sheet : Sheet) : sheet.Preorder sheet.placements := by
  refine ⟨Node.rulePathsFrom 0 sheet, Node.pairwise_rulePathsFrom 0 sheet,
    Node.forall₂_rulePathsFrom [] [] sheet, ?_⟩
  intro path placement leads
  cases path with
  | nil =>
      obtain ⟨children, same⟩ := leads
      cases same
  | cons index path =>
      obtain ⟨node, found, inner⟩ := Node.exists_child_of_leadsTo leads
      have member := Node.mem_rulePathsFrom 0 found (Node.mem_rulePaths inner)
      rwa [Nat.zero_add] at member

/-! ### Calls as they are made -/

variable {σ ε α β : Type}

/-- One call of a visitor: what it was given, and what it answered. -/
structure Call (ε : Type) where
  rule : StyleRule
  selector : Selector
  answer : Except ε Flow

/-- The visitor that does the same and writes down every call, those included that fail. -/
def Visitor.recorded (visit : Visitor σ ε) : Visitor (σ × List (Call ε)) ε :=
  fun rule selector => ExceptT.mk fun (state, calls) => do
    let (answer, final) ← (visit rule selector).run.run state
    return (answer, final, calls ++ [⟨rule, selector, answer⟩])

/-- The calls for the selectors of one style rule: in order, and up to the first that the visitor
stops at or refuses. -/
inductive Calls (rule : StyleRule) : List Selector → List (Call ε) → Except ε Unit → Prop
  | done : Calls rule [] [] (.ok ())
  | proceed {selector : Selector} {rest : List Selector} {calls : List (Call ε)}
      {outcome : Except ε Unit} (later : Calls rule rest calls outcome) :
      Calls rule (selector :: rest) (⟨rule, selector, .ok .proceed⟩ :: calls) outcome
  | stop (selector : Selector) (rest : List Selector) :
      Calls rule (selector :: rest) [⟨rule, selector, .ok .stop⟩] (.ok ())
  | refuse (selector : Selector) (rest : List Selector) (error : ε) :
      Calls rule (selector :: rest) [⟨rule, selector, .error error⟩] (.error error)

/-- The calls for style rules one after the other. Nothing that a rule does but fail has a part in
what comes after it. -/
inductive Follows (raise : SelectorError → ε) :
    List (StyleRule × Except SelectorError (List Selector)) → List (Call ε) → Except ε Unit → Prop
  | done : Follows raise [] [] (.ok ())
  | unreadable (rule : StyleRule) (error : SelectorError)
      (rest : List (StyleRule × Except SelectorError (List Selector))) :
      Follows raise ((rule, .error error) :: rest) [] (.error (raise error))
  | passed {rule : StyleRule} {selectors : List Selector} {first more : List (Call ε)}
      {rest : List (StyleRule × Except SelectorError (List Selector))} {outcome : Except ε Unit}
      (here : Calls rule selectors first (.ok ())) (later : Follows raise rest more outcome) :
      Follows raise ((rule, .ok selectors) :: rest) (first ++ more) outcome
  | refused {rule : StyleRule} {selectors : List Selector} {calls : List (Call ε)} {error : ε}
      (here : Calls rule selectors calls (.error error))
      (rest : List (StyleRule × Except SelectorError (List Selector))) :
      Follows raise ((rule, .ok selectors) :: rest) calls (.error error)

/-- From every state and journal the second computation does what the first does, and it adds calls
that go with the outcome. -/
def Logs (action : Walk σ ε α) (recorded : Walk (σ × List (Call ε)) ε α)
    (goes : List (Call ε) → Except ε α → Prop) : Prop :=
  ∀ state journal log, ∃ outcome final later calls,
    (action.run.run state).run journal = ((outcome, final), later) ∧
    (recorded.run.run (state, log)).run journal = ((outcome, final, log ++ calls), later) ∧
    goes calls outcome

namespace Logs

theorem mono {action : Walk σ ε α} {recorded : Walk (σ × List (Call ε)) ε α}
    {goes others : List (Call ε) → Except ε α → Prop} (logs : Logs action recorded goes)
    (weaker : ∀ calls outcome, goes calls outcome → others calls outcome) :
    Logs action recorded others := by
  intro state journal log
  obtain ⟨outcome, final, later, calls, ran, wrote, went⟩ := logs state journal log
  exact ⟨outcome, final, later, calls, ran, wrote, weaker calls outcome went⟩

theorem ofAnswer {action : Journaled α} {value : α} (settled : Journaled.Answers action value) :
    Logs (σ := σ) (ε := ε) (liftM action) (liftM action)
      fun calls outcome => calls = [] ∧ outcome = .ok value := by
  intro state journal log
  have answered : (action.run journal).1 = value := settled journal
  refine ⟨.ok value, state, (action.run journal).2, [], ?_, ?_, rfl, rfl⟩
  · rw [← answered]
    rfl
  · rw [← answered, List.append_nil]
    rfl

theorem ofOutcome (outcome : Except ε α) :
    Logs (σ := σ) (ExceptT.mk (pure outcome)) (ExceptT.mk (pure outcome))
      fun calls result => calls = [] ∧ result = outcome := by
  intro state journal log
  refine ⟨outcome, state, journal, [], rfl, ?_, rfl, rfl⟩
  rw [List.append_nil]
  rfl

theorem ofVisit (visit : Visitor σ ε) (rule : StyleRule) (selector : Selector) :
    Logs (visit rule selector) (visit.recorded rule selector)
      fun calls answer => calls = [⟨rule, selector, answer⟩] := by
  intro state journal log
  exact ⟨_, _, _, _, rfl, rfl, rfl⟩

theorem bind {action : Walk σ ε α} {recorded : Walk (σ × List (Call ε)) ε α}
    {next : α → Walk σ ε β} {nextRecorded : α → Walk (σ × List (Call ε)) ε β}
    {goes : List (Call ε) → Except ε α → Prop} {goesOn : α → List (Call ε) → Except ε β → Prop}
    {whole : List (Call ε) → Except ε β → Prop} (first : Logs action recorded goes)
    (second : ∀ value, Logs (next value) (nextRecorded value) (goesOn value))
    (ends : ∀ calls error, goes calls (.error error) → whole calls (.error error))
    (joins : ∀ calls value more outcome, goes calls (.ok value) → goesOn value more outcome →
      whole (calls ++ more) outcome) :
    Logs (action >>= next) (recorded >>= nextRecorded) whole := by
  intro state journal log
  obtain ⟨outcome, middle, between, calls, ran, wrote, went⟩ := first state journal log
  have run : ((action >>= next).run.run state).run journal =
      (match outcome with
      | .ok value => (next value).run.run middle
      | .error error => pure (.error error, middle) : Journaled _).run between := by
    rw [ExceptT.run_bind, StateT.run_bind, StateT.run_bind, ran]
    cases outcome <;> rfl
  have write : ((recorded >>= nextRecorded).run.run (state, log)).run journal =
      (match outcome with
      | .ok value => (nextRecorded value).run.run (middle, log ++ calls)
      | .error error => pure (.error error, middle, log ++ calls) : Journaled _).run between := by
    rw [ExceptT.run_bind, StateT.run_bind, StateT.run_bind, wrote]
    cases outcome <;> rfl
  rw [run, write]
  cases outcome with
  | error error => exact ⟨.error error, middle, between, calls, rfl, rfl, ends calls error went⟩
  | ok value =>
      obtain ⟨outcome, final, later, more, ranOn, wroteOn, wentOn⟩ :=
        second value middle between (log ++ calls)
      refine ⟨outcome, final, later, calls ++ more, ranOn, ?_, joins _ _ _ _ went wentOn⟩
      rw [← List.append_assoc]
      exact wroteOn

end Logs

def CallsAfter (rule : StyleRule) (rest : List Selector) :
    Flow → List (Call ε) → Except ε Unit → Prop
  | .proceed => Calls rule rest
  | .stop => fun calls outcome => calls = [] ∧ outcome = .ok ()

theorem calls_cons {rule : StyleRule} {selector : Selector} {rest : List Selector} {flow : Flow}
    {more : List (Call ε)} {outcome : Except ε Unit}
    (later : CallsAfter rule rest flow more outcome) :
    Calls rule (selector :: rest) (⟨rule, selector, .ok flow⟩ :: more) outcome := by
  cases flow with
  | proceed => exact .proceed later
  | stop =>
      obtain ⟨rfl, rfl⟩ := later
      exact .stop selector rest

theorem logs_visitSelectors (visit : Visitor σ ε) (rule : StyleRule) (selectors : List Selector) :
    Logs (visitSelectors visit rule selectors) (visitSelectors visit.recorded rule selectors)
      (Calls rule selectors) := by
  induction selectors with
  | nil =>
      apply (Logs.ofOutcome (.ok ())).mono
      rintro calls outcome ⟨rfl, rfl⟩
      exact .done
  | cons selector rest ih =>
      have noted : Journaled.Answers (Journal.record (.visited rule.selector selector.text)) () :=
        fun _ => rfl
      have later (flow : Flow) : Logs
          (match flow with
          | .proceed => visitSelectors visit rule rest
          | .stop => pure ())
          (match flow with
          | .proceed => visitSelectors visit.recorded rule rest
          | .stop => pure ())
          (CallsAfter rule rest flow) := by
        cases flow with
        | proceed => exact ih
        | stop => exact Logs.ofOutcome (.ok ())
      rw [visitSelectors, visitSelectors]
      refine Logs.bind (Logs.ofAnswer noted)
        (fun _ => (?called : Logs _ _ (Calls rule (selector :: rest)))) ?_ ?_
      case called =>
        apply Logs.bind (Logs.ofVisit visit rule selector) later
        · rintro calls error rfl
          exact .refuse selector rest error
        · rintro calls flow more outcome rfl went
          exact calls_cons went
      · rintro calls error ⟨-, ⟨⟩⟩
      · rintro calls value more outcome ⟨rfl, -⟩ went
        exact went

theorem logs_visitPlacement (raise : SelectorError → ε) (visit : Visitor σ ε)
    (placement : Placement) :
    Logs (visitPlacement raise visit placement) (visitPlacement raise visit.recorded placement)
      fun calls outcome =>
        match standaloneSelectors placement with
        | .error error => calls = [] ∧ outcome = .error (raise error)
        | .ok selectors => Calls placement.1 selectors calls outcome := by
  have flat := answers_flatten placement
  generalize standaloneSelectors placement = read at flat
  have visited (read : Except SelectorError (List Selector)) : Logs
      (match read with
      | .error error => throw (raise error)
      | .ok selectors => visitSelectors visit placement.1 selectors)
      (match read with
      | .error error => throw (raise error)
      | .ok selectors => visitSelectors visit.recorded placement.1 selectors)
      fun calls outcome =>
        match read with
        | .error error => calls = [] ∧ outcome = .error (raise error)
        | .ok selectors => Calls placement.1 selectors calls outcome := by
    cases read with
    | error error => exact Logs.ofOutcome (.error (raise error))
    | ok selectors => exact logs_visitSelectors visit placement.1 selectors
  apply Logs.bind (Logs.ofAnswer flat) visited
  · rintro calls error ⟨-, ⟨⟩⟩
  · rintro calls value more outcome ⟨rfl, ⟨⟩⟩ went
    exact went

/-- The style rules to visit, each with what it reads as where it stands. -/
def itinerary (placements : List Placement) :
    List (StyleRule × Except SelectorError (List Selector)) :=
  placements.map fun placement => (placement.1, standaloneSelectors placement)

theorem logs_forM (raise : SelectorError → ε) (visit : Visitor σ ε)
    (placements : List Placement) :
    Logs (forM placements (visitPlacement raise visit))
      (forM placements (visitPlacement raise visit.recorded))
      (Follows raise (itinerary placements)) := by
  induction placements with
  | nil =>
      apply (Logs.ofOutcome (.ok ())).mono
      rintro calls outcome ⟨rfl, rfl⟩
      exact .done
  | cons placement rest ih =>
      have whole : itinerary (placement :: rest) =
        (placement.1, standaloneSelectors placement) :: itinerary rest := rfl
      rw [List.forM_cons, List.forM_cons, whole]
      apply Logs.bind (logs_visitPlacement raise visit placement) fun _ => ih
      · intro calls error went
        cases read : standaloneSelectors placement with
        | error reason =>
            simp only [read] at went
            obtain ⟨rfl, ⟨⟩⟩ := went
            exact .unreadable placement.1 reason _
        | ok selectors =>
            simp only [read] at went
            exact .refused went _
      · intro calls value more outcome went wentOn
        cases read : standaloneSelectors placement with
        | error reason =>
            simp only [read] at went
            obtain ⟨-, ⟨⟩⟩ := went
        | ok selectors =>
            simp only [read] at went
            exact .passed went wentOn

/-- A walk is a fold over the style rules in the order of the tree. Each is flattened below the
nodes on the way to it; the visitor is called with its selectors in order, up to and including the
first it stops at, and a stop changes nothing for any other style rule. The first one that cannot
be read and the first call that fails end the walk with their error, and nothing else does. -/
theorem walk_preorder (raise : SelectorError → ε) (visit : Visitor σ ε) (sheet : Sheet) (state : σ)
    (journal : Journal) :
    ∃ placements, sheet.Preorder placements ∧
      ∃ outcome final later calls,
        ((walk raise visit sheet).run.run state).run journal = ((outcome, final), later) ∧
        ((walk raise visit.recorded sheet).run.run (state, [])).run journal =
          ((outcome, final, calls), later) ∧
        Follows raise (itinerary placements) calls outcome := by
  obtain ⟨outcome, final, later, calls, ran, wrote, follows⟩ :=
    logs_forM raise visit sheet.placements state journal []
  refine ⟨sheet.placements, preorder_placements sheet, outcome, final, later, calls, ?_, ?_,
    follows⟩
  · rw [walk_eq_forM]
    exact ran
  · rw [walk_eq_forM]
    exact wrote

end ClassLint
