import ClassLint.Position

/-! Why a text is not a stylesheet. -/

namespace ClassLint

inductive SheetFault where
  | unclosedBlock
  | unexpectedBrace
  | unclosedString
  | unclosedComment
  | unclosedBracket (bracket : Char)
  | missingSelector
  | unknownWord (word : Text)
  deriving DecidableEq, Repr

structure SheetError where
  fault : SheetFault
  position : Position
  deriving DecidableEq, Repr

def SheetFault.message : SheetFault → Text
  | .unclosedBlock => "unclosed block"
  | .unexpectedBrace => "unexpected " ++ cited ['}']
  | .unclosedString => "unclosed string"
  | .unclosedComment => "unclosed comment"
  | .unclosedBracket bracket => "unclosed bracket " ++ cited [bracket]
  | .missingSelector => "missing selector"
  | .unknownWord word => "unknown word " ++ cited word

def SheetError.message (error : SheetError) : Text :=
  error.position.text ++ ": " ++ error.fault.message

end ClassLint
