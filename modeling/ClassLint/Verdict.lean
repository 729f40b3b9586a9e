import ClassLint.Level
import ClassLint.Options
import ClassLint.Violation

/-! Judging one selector. The checks run in a fixed order: helpers, the component, its variants, the
levels below it, and the depth. The first that does not accept decides. -/

namespace ClassLint

/-- A selector outside the convention is exempt: it is neither reported nor checked on. -/
inductive Verdict where
  | accept
  | exempt
  | reject (violation : Violation)
  deriving DecidableEq, Repr

def Verdict.andThen : Verdict → Verdict → Verdict
  | .accept, next => next
  | verdict, _ => verdict

def Verdict.all : List Verdict → Verdict
  | [] => .accept
  | verdict :: rest => verdict.andThen (Verdict.all rest)

/-- Helpers stand alone: a level of helpers only is exempt, and helpers beside other classes are
rejected. -/
def judgeHelpers (options : ResolvedOptions) (classes : List Token) : Verdict :=
  match options.helper? with
  | none => .accept
  | some helper =>
    let helpers := classes.countP fun token => helper.accepts token.value
    if helpers = classes.length then .exempt
    else if 0 < helpers then .reject (.helperName (Token.source classes))
    else .accept

def componentIndices (options : ResolvedOptions) (classes : List Token) : List Nat :=
  (classes.zipIdx.filter fun item => options.isComponent item.1.value).map Prod.snd

/-- The index of the component. Where the check is off, the first class stands in for it. -/
def componentIndex (options : ResolvedOptions) (classes : List Token) : Except Violation Nat :=
  if options.component?.isNone then .ok 0
  else
    match componentIndices options classes with
    | [] => .error (.componentName (Token.source classes))
    | [index] => .ok index
    | _ => .error (.tooManyComponents (Token.source classes))

def judgeVariants (options : ResolvedOptions) (classes : List Token) (component : Nat) : Verdict :=
  match options.variant? with
  | none => .accept
  | some variant =>
    let wrong := classes.zipIdx.filter fun item =>
      item.2 ≠ component && !variant.accepts item.1.value
    if wrong.isEmpty then .accept
    else .reject (.variants (wrong.map fun item => trim item.1.raw))

def judgeComponent (options : ResolvedOptions) (level : Level) : Verdict :=
  let classes := level.classes
  if classes.isEmpty then .exempt
  else
    (judgeHelpers options classes).andThen
      (match componentIndex options classes with
      | .error violation => .reject violation
      | .ok component => judgeVariants options classes component)

/-- A level after the first. A variant may stand on its own only beside something that is no class,
such as a tag. -/
def judgeElement (options : ResolvedOptions) (level : Level) : Verdict :=
  match level.classes with
  | [] => .accept
  | first :: rest =>
    let isVariant (token : Token) : Bool :=
      options.variant?.any fun variant => variant.accepts token.value
    if level.isAllClasses && isVariant first && rest.all isVariant then
      .reject (.variantWithoutElement level.text)
    else if options.element?.any (fun element => !element.accepts first.value) &&
        !(!level.isAllClasses && isVariant first) then
      .reject (.elementName first.raw)
    else
      match options.variant?.bind fun variant =>
          rest.find? fun token => !variant.accepts token.value with
      | some wrong => .reject (.variantName wrong.raw)
      | none => .accept

def judgeDepth (options : ResolvedOptions) (selector : Selector) : Verdict :=
  match options.maxDepth? with
  | none => .accept
  | some most =>
    if most < selector.levels.length - 1 then .reject (.tooDeep selector.text) else .accept

def judge (options : ResolvedOptions) (selector : Selector) : Verdict :=
  match selector.levels with
  | [] => .exempt
  | component :: elements =>
    (judgeComponent options component).andThen
      ((Verdict.all (elements.map (judgeElement options))).andThen (judgeDepth options selector))

end ClassLint
