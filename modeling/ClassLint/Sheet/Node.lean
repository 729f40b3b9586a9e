import ClassLint.Position

/-! The tree of a stylesheet. -/

namespace ClassLint

structure StyleRule where
  selector : Text
  position : Position
  deriving DecidableEq, Repr

/-- The head of an at-rule: its name without the mark, and the text between name and block. -/
structure AtRule where
  name : Text
  params : Text
  position : Position
  deriving DecidableEq, Repr

structure Declaration where
  property : Text
  value : Text
  important : Bool
  position : Position
  deriving DecidableEq, Repr

structure Comment where
  text : Text
  inline : Bool
  position : Position
  deriving DecidableEq, Repr

inductive Node where
  | rule (head : StyleRule) (children : List Node)
  | atBlock (head : AtRule) (children : List Node)
  | atStatement (head : AtRule)
  | declaration (declaration : Declaration)
  | comment (comment : Comment)

namespace Node

def children : Node → List Node
  | .rule _ children => children
  | .atBlock _ children => children
  | _ => []

def position : Node → Position
  | .rule head _ => head.position
  | .atBlock head _ => head.position
  | .atStatement head => head.position
  | .declaration d => d.position
  | .comment c => c.position

end Node

abbrev Sheet := List Node

end ClassLint
