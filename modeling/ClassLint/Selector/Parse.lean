import ClassLint.Selector.Piece

/-! Reading a selector list: pieces are grouped by commas, and in each group the blanks become
combinators or padding. -/

namespace ClassLint

def consPiece (piece : Piece) : List (List Piece) → List (List Piece)
  | [] => [[piece]]
  | group :: groups => (piece :: group) :: groups

/-- The pieces of each selector between commas. There is one more group than there are commas. -/
def readPieces (t : Text) : Except SelectorFault (List (List Piece)) :=
  match t with
  | [] => .ok [[]]
  | c :: rest =>
    if c = ',' then (readPieces rest).map ([] :: ·)
    else
      match read : readPiece c rest with
      | .error fault => .error fault
      | .ok (piece, after) =>
        have := readPiece_shorter read
        (readPieces after).map (consPiece piece)
termination_by t.length
decreasing_by
  · simp only [List.length_cons, Nat.lt_add_one]
  · exact this

structure Gap where
  combinator? : Option Combinator
  raw : Text
  deriving DecidableEq, Repr

/-- The combinator a gap stands for. Blanks alone are the descendant combinator after a token, and
nothing at the start of a selector. -/
def Gap.tokens (afterToken : Bool) : Option Gap → List Token
  | some ⟨some combinator, raw⟩ => [.ofCombinator combinator raw]
  | some ⟨none, raw⟩ => if afterToken then [.ofCombinator .descendant raw] else []
  | none => []

/-- A gap at the end of a selector: a combinator is kept and blanks are not. -/
def Gap.closing : Option Gap → List Token
  | some ⟨some combinator, raw⟩ => [.ofCombinator combinator raw]
  | _ => []

def Gap.addBlanks (blanks : Text) : Option Gap → Gap
  | some gap => { gap with raw := gap.raw ++ blanks }
  | none => ⟨none, blanks⟩

def Gap.addCombinator (combinator : Combinator) : Option Gap → Except SelectorFault Gap
  | some ⟨some _, _⟩ => .error (.unexpected combinator.mark)
  | some ⟨none, raw⟩ => .ok ⟨some combinator, raw ++ [combinator.mark]⟩
  | none => .ok ⟨some combinator, [combinator.mark]⟩

/-- The tokens of one selector. Comments leave the gap before the next token as it is. -/
def joinPieces (afterToken : Bool) (gap : Option Gap) :
    List Piece → Except SelectorFault (List Token)
  | [] => .ok (Gap.closing gap)
  | .space blanks :: pieces => joinPieces afterToken (some (Gap.addBlanks blanks gap)) pieces
  | .combinator combinator :: pieces =>
    match Gap.addCombinator combinator gap with
    | .error fault => .error fault
    | .ok gap => joinPieces afterToken (some gap) pieces
  | .token token :: pieces =>
    if token.isComment then (joinPieces afterToken gap pieces).map (token :: ·)
    else (joinPieces true none pieces).map fun tokens => Gap.tokens afterToken gap ++ token :: tokens

def Selector.ofPieces (pieces : List Piece) : Except SelectorFault Selector :=
  match joinPieces false none pieces with
  | .error fault => .error fault
  | .ok [] => .error .empty
  | .ok (token :: tokens) => .ok ⟨token :: tokens⟩

/-- The selectors of a comma separated list. A fault in the pieces is found before any fault in how
they join. -/
def Selector.readList (t : Text) : Except SelectorFault (List Selector) :=
  match readPieces t with
  | .error fault => .error fault
  | .ok groups => groups.mapM Selector.ofPieces

def Selector.parseList (t : Text) : Except SelectorError (List Selector) :=
  (Selector.readList t).mapError fun fault => ⟨fault, t⟩

end ClassLint
