import ClassLint.Json.Value
import ClassLint.Sheet.Node

/-! What the rules report. -/

namespace ClassLint

structure Diagnostic where
  ruleName : Text
  message : Text
  selector : Text
  position : Position
  deriving DecidableEq, Repr

namespace Diagnostic

def about (ruleName message : Text) (rule : StyleRule) : Diagnostic :=
  ⟨ruleName, message, rule.selector, rule.position⟩

def text (d : Diagnostic) : Text :=
  d.position.text ++ "  " ++ d.message ++ "  (" ++ d.ruleName ++ ")"

def toJson (d : Diagnostic) : Json :=
  .object [
    ("ruleName".toList, .string d.ruleName),
    ("message".toList, .string d.message),
    ("selector".toList, .string d.selector),
    ("position".toList, .object [
      ("line".toList, .number (.natural d.position.line)),
      ("column".toList, .number (.natural d.position.column))])]

end Diagnostic

end ClassLint
