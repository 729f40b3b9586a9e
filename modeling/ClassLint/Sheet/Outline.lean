import ClassLint.Sheet.Node

/-! Lists of the nodes of a stylesheet, parents before children and in the order written. -/

namespace ClassLint

mutual

def Node.outline (depth : Nat) (node : Node) : List (Nat × Node) :=
  match node with
  | .rule head children =>
    (depth, .rule head children) :: Node.outlines (depth + 1) children
  | .atBlock head children =>
    (depth, .atBlock head children) :: Node.outlines (depth + 1) children
  | leaf => [(depth, leaf)]

def Node.outlines (depth : Nat) : List Node → List (Nat × Node)
  | [] => []
  | node :: rest => node.outline depth ++ Node.outlines depth rest

end

def Sheet.outline (sheet : Sheet) : List (Nat × Node) := Node.outlines 0 sheet

mutual

/-- The rules at and below a node, each with its ancestors, nearest first. -/
def Node.placements (ancestors : List Node) (node : Node) : List (StyleRule × List Node) :=
  match node with
  | .rule head children =>
    (head, ancestors) :: Node.placementsIn (.rule head children :: ancestors) children
  | .atBlock head children => Node.placementsIn (.atBlock head children :: ancestors) children
  | _ => []

def Node.placementsIn (ancestors : List Node) : List Node → List (StyleRule × List Node)
  | [] => []
  | node :: rest => node.placements ancestors ++ Node.placementsIn ancestors rest

end

def Sheet.placements (sheet : Sheet) : List (StyleRule × List Node) := Node.placementsIn [] sheet

/-- The nodes met on following child indices from the top, the last one first. -/
def Sheet.descend? (sheet : Sheet) (ancestors : List Node) : List Nat → Option (List Node)
  | [] => some ancestors
  | index :: path =>
    match sheet[index]? with
    | none => none
    | some node => descend? node.children (node :: ancestors) path

end ClassLint
