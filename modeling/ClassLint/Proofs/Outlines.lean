import ClassLint.Sheet.Outline
import ClassLint.Sheet.Parse

/-! The outline of a tree and what it is built from. Parents come before children in an outline, and
the events of a text come in the same order: each event that starts a node is found where that node
is. The style rules of an outline are those that are placed below their ancestors. -/

namespace ClassLint

namespace Node

/-- What stands in the source where a node starts: the whole selector of a rule, the mark and name
of an at-rule, the property of a declaration, the first two characters of a comment. -/
def opening : Node → Text
  | .rule head _ => head.selector
  | .atBlock head _ | .atStatement head => '@' :: head.name
  | .declaration d => d.property
  | .comment c => if c.inline then ['/', '/'] else ['/', '*']

def label (node : Node) : Position × Text := (node.position, node.opening)

def styleRule? : Node → Option StyleRule
  | .rule head _ => some head
  | _ => none

def labels (nodes : List Node) : List (Position × Text) :=
  (outlines 0 nodes).map fun entry => entry.2.label

mutual

theorem map_snd_outline (depth : Nat) (node : Node) :
    (node.outline depth).map Prod.snd = (node.outline 0).map Prod.snd := by
  cases node with
  | rule head children =>
      simp only [outline, List.map_cons]
      rw [map_snd_outlines (depth + 1) children, map_snd_outlines (0 + 1) children]
  | atBlock head children =>
      simp only [outline, List.map_cons]
      rw [map_snd_outlines (depth + 1) children, map_snd_outlines (0 + 1) children]
  | atStatement head => rfl
  | declaration d => rfl
  | comment c => rfl

theorem map_snd_outlines (depth : Nat) (nodes : List Node) :
    (outlines depth nodes).map Prod.snd = (outlines 0 nodes).map Prod.snd := by
  cases nodes with
  | nil => rfl
  | cons node rest =>
      rw [outlines, outlines, List.map_append, List.map_append, map_snd_outline depth node,
        map_snd_outlines depth rest]

end

theorem labels_of_depth (depth : Nat) (nodes : List Node) :
    (outlines depth nodes).map (fun entry => entry.2.label) = labels nodes := by
  have same := congrArg (List.map label) (map_snd_outlines depth nodes)
  rwa [List.map_map, List.map_map] at same

theorem outlines_append (depth : Nat) (nodes others : List Node) :
    outlines depth (nodes ++ others) = outlines depth nodes ++ outlines depth others := by
  induction nodes with
  | nil => rfl
  | cons node rest ih => rw [List.cons_append, outlines, outlines, ih, List.append_assoc]

theorem labels_append (nodes others : List Node) :
    labels (nodes ++ others) = labels nodes ++ labels others := by
  rw [labels, outlines_append, List.map_append]
  rfl

theorem labels_singleton (node : Node) : labels [node] = node.label :: labels node.children := by
  cases node with
  | rule head children =>
      rw [labels, outlines, outlines, outline, List.append_nil, List.map_cons, labels_of_depth]
      rfl
  | atBlock head children =>
      rw [labels, outlines, outlines, outline, List.append_nil, List.map_cons, labels_of_depth]
      rfl
  | atStatement head => rfl
  | declaration d => rfl
  | comment c => rfl

theorem children_ofBlock (prelude : Text) (position : Position) (inner : List Node) :
    (ofBlock prelude position inner).children = inner := by
  unfold ofBlock
  split <;> rfl

theorem label_ofBlock (prelude : Text) (position : Position) (inner : List Node) :
    (ofBlock prelude position inner).label = (ofBlock prelude position []).label := by
  unfold ofBlock
  split <;> rfl

theorem children_ofStatement {t : Text} {position : Position} {node : Node}
    (read : ofStatement t position = .ok node) : node.children = [] := by
  unfold ofStatement at read
  split at read
  · cases read
    rfl
  · obtain ⟨declaration, _, rfl⟩ := exists_of_map_eq_ok read
    rfl

end Node

/-! ### Events in the order of the outline -/

/-- The label of the node that an event starts. -/
def Event.label? : Event → Option (Position × Text)
  | .comment c => some (Node.comment c).label
  | .opening prelude position _ => some (Node.ofBlock prelude position []).label
  | .statement t position => (Node.ofStatement t position).toOption.map Node.label
  | .closing _ => none

def eventLabels (read : List (Except SheetError Event)) : List (Position × Text) :=
  read.filterMap fun outcome => outcome.toOption.bind Event.label?

theorem eventLabels_append (read more : List (Except SheetError Event)) :
    eventLabels (read ++ more) = eventLabels read ++ eventLabels more := List.filterMap_append

theorem eventLabels_ok (event : Event) (read : List (Except SheetError Event)) :
    eventLabels (.ok event :: read) = event.label?.toList ++ eventLabels read := by
  have labelled : (Except.ok event : Except SheetError Event).toOption.bind Event.label? =
      event.label? := rfl
  rw [eventLabels, List.filterMap_cons, labelled]
  cases event.label? <;> rfl

/-- The labels of the nodes that are begun: of the open blocks, outermost first, each after the
nodes before it, and of the nodes of the innermost block. -/
def openLabels : List Frame → List Node → List (Position × Text)
  | [], done => Node.labels done.reverse
  | frame :: frames, done =>
    openLabels frames frame.before ++
      (Node.ofBlock frame.prelude frame.position []).label :: Node.labels done.reverse

theorem openLabels_cons (frames : List Frame) (node : Node) (done : List Node) :
    openLabels frames (node :: done) = openLabels frames done ++ Node.labels [node] := by
  cases frames with
  | nil => rw [openLabels, List.reverse_cons, Node.labels_append, openLabels]
  | cons frame frames =>
      rw [openLabels, List.reverse_cons, Node.labels_append, openLabels, List.append_assoc,
        List.cons_append]

theorem openLabels_close (frames : List Frame) (frame : Frame) (done : List Node) :
    openLabels frames (frame.close done.reverse) = openLabels (frame :: frames) done := by
  rw [Frame.close, openLabels_cons, Node.labels_singleton, Node.label_ofBlock,
    Node.children_ofBlock, openLabels]

/-- Every node of a tree comes from an event, and in the order of the events. -/
theorem labels_buildNodes {frames : List Frame} {done nodes : List Node}
    {read : List (Except SheetError Event)} (built : buildNodes frames done read = .ok nodes) :
    Node.labels nodes = openLabels frames done ++ eventLabels read := by
  induction read generalizing frames done with
  | nil =>
      cases frames with
      | nil =>
          cases built
          exact (List.append_nil _).symm
      | cons frame frames => cases built
  | cons outcome read ih =>
      obtain error | event := outcome
      · cases built
      · rw [eventLabels_ok]
        cases event with
        | comment comment =>
            rw [ih built, openLabels_cons, List.append_assoc]
            rfl
        | opening prelude position brace =>
            -- The label of a block is told when it opens, and the block keeps it until it closes.
            rw [ih built, openLabels, List.append_assoc]
            rfl
        | statement t position =>
            rw [buildNodes] at built
            split at built
            · cases built
            · rename_i node statement
              rw [ih built, openLabels_cons, Node.labels_singleton,
                Node.children_ofStatement statement, Event.label?, statement, List.append_assoc]
              rfl
        | closing position =>
            cases frames with
            | nil => cases built
            | cons frame frames =>
                rw [ih built, openLabels_close]
                rfl

theorem labels_parse {dialect : Dialect} {source : Text} {sheet : Sheet}
    (read : Sheet.parse dialect source = .ok sheet) :
    sheet.outline.map (fun entry => entry.2.label) = eventLabels (events dialect .start source) :=
  labels_buildNodes read

/-! ### Style rules in the order of the outline -/

mutual

theorem Node.map_fst_placements (ancestors : List Node) (depth : Nat) (node : Node) :
    (node.placements ancestors).map Prod.fst =
      (node.outline depth).filterMap fun entry => entry.2.styleRule? := by
  cases node with
  | rule head children =>
      rw [placements, outline, List.map_cons,
        map_fst_placementsIn _ (depth + 1) children]
      rfl
  | atBlock head children =>
      rw [placements, outline, map_fst_placementsIn _ (depth + 1) children]
      rfl
  | atStatement head => rfl
  | declaration d => rfl
  | comment c => rfl

theorem Node.map_fst_placementsIn (ancestors : List Node) (depth : Nat) (nodes : List Node) :
    (placementsIn ancestors nodes).map Prod.fst =
      (outlines depth nodes).filterMap fun entry => entry.2.styleRule? := by
  cases nodes with
  | nil => rfl
  | cons node rest =>
      rw [placementsIn, outlines, List.map_append, List.filterMap_append,
        map_fst_placements ancestors depth node, map_fst_placementsIn ancestors depth rest]

end

theorem map_fst_placements (sheet : Sheet) :
    sheet.placements.map Prod.fst = sheet.outline.filterMap fun entry => entry.2.styleRule? :=
  Node.map_fst_placementsIn [] 0 sheet

end ClassLint
