import ClassLint.Diagnostic
import ClassLint.Json.Writer
import ClassLint.Text.Raw

/-! Printing the diagnostics of the files that were checked. -/

namespace ClassLint

/-- What sets a piece of output apart on a terminal. -/
inductive Tone where
  | underlined
  | dimmed
  | red
  | redBold
  deriving DecidableEq, Repr

abbrev Painter := Tone → Text → Text

def Painter.plain : Painter := fun _ t => t

structure FileReport where
  path : RawText
  diagnostics : List Diagnostic
  deriving DecidableEq, Repr

namespace FileReport

def line (paint : Painter) (d : Diagnostic) : Text :=
  "  " ++ paint .dimmed d.position.text ++ "  " ++ paint .red "error" ++ "  " ++ d.message ++
    "  " ++ paint .dimmed d.ruleName ++ ['\n']

/-- A file without diagnostics is not mentioned. -/
def text (paint : Painter) (report : FileReport) : Text :=
  if report.diagnostics.isEmpty then []
  else
    paint .underlined report.path.display ++ '\n' :: report.diagnostics.flatMap (line paint) ++
      ['\n']

def total (reports : List FileReport) : Nat :=
  (reports.flatMap FileReport.diagnostics).length

def countText (count : Nat) : Text :=
  decimal count ++ if count = 1 then " problem".toList else " problems".toList

def summary (paint : Painter) (count : Nat) : Text :=
  if count = 0 then [] else paint .redBold (countText count) ++ ['\n']

def textOf (paint : Painter) (reports : List FileReport) : Text :=
  reports.flatMap (text paint) ++ summary paint (total reports)

def entry (path : Text) (diagnostics : List Diagnostic) : Json :=
  .object [
    ("source".toList, .string path),
    ("diagnostics".toList, .array (diagnostics.map Diagnostic.toJson))]

/-- A path that is no text has no spelling in JSON. -/
def toJson (report : FileReport) : Except RawText Json :=
  match report.path.text? with
  | some path => .ok (entry path report.diagnostics)
  | none => .error report.path

def jsonOf (reports : List FileReport) : Except RawText Text :=
  (reports.mapM toJson).map fun entries => (Json.array entries).pretty 0 ++ ['\n']

end FileReport

end ClassLint
