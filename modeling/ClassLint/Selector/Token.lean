import ClassLint.Text.Blank

/-! The tokens of a selector, and selectors as flat chains of them. -/

namespace ClassLint

inductive Combinator where
  | descendant
  | child
  | nextSibling
  | subsequentSibling
  deriving DecidableEq, Repr

def Combinator.mark : Combinator → Char
  | .descendant => ' '
  | .child => '>'
  | .nextSibling => '+'
  | .subsequentSibling => '~'

def Combinator.ofMark? : Char → Option Combinator
  | '>' => some .child
  | '+' => some .nextSibling
  | '~' => some .subsequentSibling
  | _ => none

inductive Kind where
  | className
  | tag
  | id
  | attribute
  | pseudoClass
  | pseudoElement
  | combinator (combinator : Combinator)
  | comment
  | universal
  | nesting
  deriving DecidableEq, Repr

def Kind.name : Kind → Text
  | .className => "class"
  | .tag => "tag"
  | .id => "id"
  | .attribute => "attribute"
  | .pseudoClass => "pseudo-class"
  | .pseudoElement => "pseudo-element"
  | .combinator _ => "combinator"
  | .comment => "comment"
  | .universal => "universal"
  | .nesting => "nesting"

/-- `raw` is the token as written; `value` is its name with escapes resolved, and for a combinator
its mark. -/
structure Token where
  kind : Kind
  value : Text
  raw : Text
  deriving DecidableEq, Repr

def Token.isClass (token : Token) : Bool := token.kind == .className

def Token.isComment (token : Token) : Bool := token.kind == .comment

def Token.combinator? (token : Token) : Option Combinator :=
  match token.kind with
  | .combinator combinator => some combinator
  | _ => none

def Token.ofCombinator (combinator : Combinator) (raw : Text) : Token :=
  ⟨.combinator combinator, [combinator.mark], raw⟩

def Token.source (tokens : List Token) : Text := tokens.flatMap Token.raw

structure Selector where
  tokens : List Token
  deriving DecidableEq, Repr

def Selector.text (selector : Selector) : Text := trim (Token.source selector.tokens)

def Selector.listText (selectors : List Selector) : Text :=
  (", " : Text).intercalate (selectors.map Selector.text)

end ClassLint
