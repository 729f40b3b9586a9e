import ClassLint.Diagnostic
import ClassLint.Verdict
import ClassLint.Walk

/-! The two lint rules. -/

namespace ClassLint

inductive RuleName where
  | classFormat
  | noDescendantCombinator
  deriving DecidableEq, Repr

namespace RuleName

def text : RuleName → Text
  | .classFormat => "rscss/class-format"
  | .noDescendantCombinator => "rscss/no-descendant-combinator"

def ofText? (t : Text) : Option RuleName :=
  [RuleName.classFormat, .noDescendantCombinator].find? fun name => name.text = t

end RuleName

inductive Rule where
  | classFormat (options : ResolvedOptions)
  | noDescendantCombinator

/-- What a rule has seen and reported so far, the last diagnostic first. -/
structure Findings where
  visited : Nat
  reversed : List Diagnostic
  deriving DecidableEq, Repr

def Findings.start : Findings := ⟨0, []⟩

def Findings.diagnostics (findings : Findings) : List Diagnostic := findings.reversed.reverse

abbrev Checked := ExceptT SelectorError Journaled

def Findings.visit (name : RuleName) (rule : StyleRule) (message? : Option Text)
    (findings : Findings) : Findings :=
  match message? with
  | some message => ⟨findings.visited + 1, .about name.text message rule :: findings.reversed⟩
  | none => { findings with visited := findings.visited + 1 }

def visitClassFormat (options : ResolvedOptions) : Visitor Findings SelectorError :=
  fun rule selector => do
    match judge options selector with
    | .accept =>
      modifyThe Findings (Findings.visit .classFormat rule none)
      return .proceed
    | .exempt =>
      modifyThe Findings (Findings.visit .classFormat rule none)
      return .stop
    | .reject violation =>
      modifyThe Findings (Findings.visit .classFormat rule (some violation.message))
      return .stop

def Selector.hasDescendant (selector : Selector) : Bool :=
  selector.tokens.any fun token => token.combinator? = some .descendant

def descendantMessage (selector : Selector) : Text :=
  "Descendant combinator not allowed: " ++ cited selector.text

def visitDescendants : Visitor Findings SelectorError :=
  fun rule selector => do
    if selector.hasDescendant then
      modifyThe Findings
        (Findings.visit .noDescendantCombinator rule (some (descendantMessage selector)))
      return .stop
    else
      modifyThe Findings (Findings.visit .noDescendantCombinator rule none)
      return .proceed

def collect (visit : Visitor Findings SelectorError) (sheet : Sheet) : Checked Findings := do
  let (outcome, findings) ← ((walk id visit sheet).run.run Findings.start : Journaled _)
  match outcome with
  | .error error => throw error
  | .ok () => return findings

namespace Rule

def name : Rule → RuleName
  | .classFormat _ => .classFormat
  | .noDescendantCombinator => .noDescendantCombinator

def check (sheet : Sheet) : Rule → Checked (List Diagnostic)
  | .classFormat options => do
    let findings ← collect (visitClassFormat options) sheet
    Journal.record (.checked RuleName.classFormat.text (some findings.visited)
      findings.diagnostics.length)
    return findings.diagnostics
  | .noDescendantCombinator => do
    let findings ← collect visitDescendants sheet
    Journal.record (.checked RuleName.noDescendantCombinator.text none
      findings.diagnostics.length)
    return findings.diagnostics

end Rule

end ClassLint
