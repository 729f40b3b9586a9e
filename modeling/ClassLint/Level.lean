import ClassLint.Segment
import ClassLint.Selector.Token

/-! The levels of a selector: the compounds between descendant and child combinators. Of compounds
joined as siblings only the last belongs to the level. -/

namespace ClassLint

structure Level where
  tokens : List Token
  deriving DecidableEq, Repr

namespace Level

def classes (level : Level) : List Token := level.tokens.filter Token.isClass

def isAllClasses (level : Level) : Bool := level.tokens.all Token.isClass

def text (level : Level) : Text := trim (Token.source level.tokens)

end Level

def Token.descends (token : Token) : Bool :=
  match token.combinator? with
  | some .descendant | some .child => true
  | _ => false

def Token.joins (token : Token) : Bool := token.combinator?.isSome

def lastCompound (tokens : List Token) : Level :=
  ⟨((Segment.splitBy Token.joins tokens).getLast?.bind Segment.run?).getD []⟩

/-- A descendant or child combinator at either end leaves an empty level there. -/
def Selector.levels (selector : Selector) : List Level :=
  ((Segment.splitBy Token.descends selector.tokens).filterMap Segment.run?).map lastCompound

end ClassLint
