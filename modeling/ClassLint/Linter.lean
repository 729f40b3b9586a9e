import ClassLint.Config
import ClassLint.Sheet.Parse

/-! Running the configured rules. -/

namespace ClassLint

inductive ConfigError where
  | unknownRule (name : Text)
  | invalidOptions (rule : Text)
  | pattern (fault : OptionFault)
  deriving DecidableEq, Repr

def ConfigError.headline : ConfigError → Text
  | .unknownRule name => "unknown rule " ++ cited name
  | .invalidOptions rule => "invalid options for " ++ cited rule
  | .pattern fault => "invalid " ++ cited fault.option ++ " option"

def ConfigError.message : ConfigError → Text
  | .pattern fault => (ConfigError.pattern fault).headline ++ ": " ++ fault.fault.message
  | error => error.headline

inductive LintError where
  | sheet (error : SheetError)
  | selector (error : SelectorError)
  deriving DecidableEq, Repr

def LintError.message : LintError → Text
  | .sheet error => "stylesheet parse error: " ++ error.message
  | .selector error => "selector parse error: " ++ error.message

def RuleSetting.resolve (setting : RuleSetting) (rule : Text) :
    Except ConfigError ResolvedOptions := do
  let options ← match setting.secondary? with
    | none => .ok {}
    | some value =>
      match SecondaryOptions.ofJson value with
      | .ok options => .ok options
      | .error _ => .error (.invalidOptions rule)
  (ResolvedOptions.resolve options).mapError .pattern

/-- The rule an entry switches on. A name must be known even if its entry is off, and options are
looked at only if it is on. -/
def activate (name : Text) (setting : RuleSetting) : Except ConfigError (Option Rule) :=
  match RuleName.ofText? name with
  | none => .error (.unknownRule name)
  | some known =>
    if !setting.option.isEnabled then .ok none
    else
      match known with
      | .classFormat => (setting.resolve name).map fun options => some (.classFormat options)
      | .noDescendantCombinator => .ok (some .noDescendantCombinator)

structure Linter where
  rules : List Rule

namespace Linter

def ruleNames (linter : Linter) : List Text := linter.rules.map fun rule => rule.name.text

/-- The rules that a configuration switches on, by name; the first entry that fails is reported. -/
def activeRules : List (Text × RuleSetting) → Except ConfigError (List Rule)
  | [] => .ok []
  | (name, setting) :: rest => do
    let rule? ← activate name setting
    let rules ← activeRules rest
    return rule?.toList ++ rules

def ofConfig (config : Config) : ExceptT ConfigError Journaled Linter := do
  match activeRules config.rules with
  | .error error => throw error
  | .ok rules =>
    let linter : Linter := ⟨rules⟩
    Journal.record (.activated linter.ruleNames)
    return linter

def checkAll (sheet : Sheet) : List Rule → Checked (List Diagnostic)
  | [] => return []
  | rule :: rest => do
    let first ← rule.check sheet
    let more ← checkAll sheet rest
    return first ++ more

def lint (linter : Linter) (sheet : Sheet) : Checked (List Diagnostic) :=
  checkAll sheet linter.rules

def lintSource (linter : Linter) (dialect : Dialect) (source : Text) :
    ExceptT LintError Journaled (List Diagnostic) := do
  match Sheet.parse dialect source with
  | .error error => throw (.sheet error)
  | .ok sheet =>
    match ← (linter.lint sheet).run with
    | .error error => throw (.selector error)
    | .ok diagnostics => return diagnostics

end Linter

end ClassLint
