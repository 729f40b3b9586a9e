import ClassLint.Text.Basic

/-! Why a text is not a list of selectors. -/

namespace ClassLint

inductive Construct where
  | escape
  | interpolation
  | attribute
  | parenthesis
  | string
  | comment
  deriving DecidableEq, Repr

def Construct.name : Construct → Text
  | .escape => "escape"
  | .interpolation => "interpolation"
  | .attribute => "attribute selector"
  | .parenthesis => "parenthesis"
  | .string => "string"
  | .comment => "comment"

inductive SelectorFault where
  | empty
  | expectedName (mark : Char)
  | unterminated (construct : Construct)
  | unexpected (found : Char)
  deriving DecidableEq, Repr

structure SelectorError where
  fault : SelectorFault
  source : Text
  deriving DecidableEq, Repr

def SelectorFault.message : SelectorFault → Text
  | .empty => "empty selector"
  | .expectedName mark => "expected a name after " ++ cited [mark]
  | .unterminated construct => "unterminated " ++ construct.name
  | .unexpected found => "unexpected character " ++ cited [found]

def SelectorError.message (error : SelectorError) : Text :=
  error.fault.message ++ " in " ++ cited error.source

end ClassLint
