import ClassLint.Sheet.Declaration
import ClassLint.Sheet.Event
import ClassLint.Unicode.Letter

/-! Building the tree of a stylesheet from its events. -/

namespace ClassLint

def isAtNameCharacter (c : Char) : Bool := isAlphanumeric c || c = '-' || c = '_'

def AtRule.ofText (t : Text) (position : Position) : AtRule :=
  ⟨t.takeWhile isAtNameCharacter, trim (t.dropWhile isAtNameCharacter), position⟩

def Node.ofBlock (prelude : Text) (position : Position) (children : List Node) : Node :=
  match prelude with
  | '@' :: rest => .atBlock (.ofText rest position) children
  | selector => .rule ⟨selector, position⟩ children

def Node.ofStatement (t : Text) (position : Position) : Except SheetError Node :=
  match t with
  | '@' :: rest => .ok (.atStatement (.ofText rest position))
  | t => (Declaration.parse t position).map .declaration

/-- A block that is still open, with the nodes before it on its level, last first. -/
structure Frame where
  prelude : Text
  position : Position
  brace : Position
  before : List Node

def Frame.close (frame : Frame) (children : List Node) : List Node :=
  .ofBlock frame.prelude frame.position children :: frame.before

/-- Reads events with the blocks open so far, innermost first, and the nodes of the innermost block,
last first. -/
def buildNodes (frames : List Frame) (done : List Node) :
    List (Except SheetError Event) → Except SheetError (List Node)
  | [] =>
    match frames with
    | [] => .ok done.reverse
    | frame :: _ => .error ⟨.unclosedBlock, frame.brace⟩
  | .error error :: _ => .error error
  | .ok (.comment comment) :: rest => buildNodes frames (.comment comment :: done) rest
  | .ok (.opening prelude position brace) :: rest =>
    buildNodes (⟨prelude, position, brace, done⟩ :: frames) [] rest
  | .ok (.statement t position) :: rest =>
    match Node.ofStatement t position with
    | .error error => .error error
    | .ok node => buildNodes frames (node :: done) rest
  | .ok (.closing position) :: rest =>
    match frames with
    | [] => .error ⟨.unexpectedBrace, position⟩
    | frame :: frames => buildNodes frames (frame.close done.reverse) rest

def Sheet.parse (dialect : Dialect) (source : Text) : Except SheetError Sheet :=
  buildNodes [] [] (events dialect .start source)

end ClassLint
