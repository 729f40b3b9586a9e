import ClassLint.Regex.Compile
import ClassLint.Regex.Match

/-! Class patterns: the naming styles, custom patterns with flags, and how they are compiled. -/

namespace ClassLint

inductive Style where
  | component
  | element
  | variant
  | helper
  | pascalCase
  | camelCase
  deriving DecidableEq, Repr

namespace Style

def all : List Style := [.component, .element, .variant, .helper, .pascalCase, .camelCase]

def name : Style → Text
  | .component => "component"
  | .element => "element"
  | .variant => "variant"
  | .helper => "helper"
  | .pascalCase => "pascal-case"
  | .camelCase => "camel-case"

def ofName? (t : Text) : Option Style := all.find? fun style => style.name = t

def pattern : Style → Text
  | .component => "^([a-z][a-z0-9]*)(-([a-z][a-z0-9]*))+$"
  | .element => "^([a-z][a-z0-9]*)$"
  | .variant => "^(-[a-z0-9]+)(-[a-z0-9]+)*$"
  | .helper => "^_([a-z][a-z0-9\\-]*)$"
  | .pascalCase => "^([A-Z][a-z0-9]*)+$"
  | .camelCase => "^([a-z][a-z0-9]*)([A-Z][a-z0-9]*)+$"

end Style

inductive PatternSpec where
  | style (style : Style)
  | custom (pattern : Text)
  deriving DecidableEq, Repr

namespace PatternSpec

/-- The name of a style means that style, and any other text is a pattern. -/
def ofText (t : Text) : PatternSpec :=
  match Style.ofName? t with
  | some known => .style known
  | none => .custom t

def text : PatternSpec → Text
  | .style s => s.name
  | .custom pattern => pattern

end PatternSpec

inductive PatternFault where
  | empty
  | repeatMatchFlag (pattern : Text) (flag : Char)
  | unknownFlag (pattern : Text) (flag : Char)
  | invalid (pattern : Text)
  deriving DecidableEq, Repr

def PatternFault.message : PatternFault → Text
  | .empty => "pattern is empty"
  | .repeatMatchFlag pattern flag =>
    "pattern " ++ cited pattern ++ " uses the repeat-match flag " ++ cited [flag]
  | .unknownFlag pattern flag => "pattern " ++ cited pattern ++ " uses unknown flag " ++ cited [flag]
  | .invalid pattern => "invalid pattern " ++ cited pattern

def splitLastSlash? (t : Text) : Option Taken :=
  match t.reverse.dropWhile (· ≠ '/') with
  | [] => none
  | _ :: body => some (body.reverse, (t.reverse.takeWhile (· ≠ '/')).reverse)

def patternLiteral? : Text → Option Taken
  | '/' :: rest => splitLastSlash? rest
  | _ => none

/-- The flags of a literal, each once and in the order of first appearance. Unicode matching is
always on, so its flag is left out. -/
def inlineFlags (pattern : Text) (inline : Text) : Text → Except PatternFault Text
  | [] => .ok inline
  | flag :: rest =>
    match flag with
    | 'g' | 'y' => .error (.repeatMatchFlag pattern flag)
    | 'i' | 'm' | 's' | 'x' =>
      inlineFlags pattern (if inline.contains flag then inline else inline ++ [flag]) rest
    | 'u' => inlineFlags pattern inline rest
    | _ => .error (.unknownFlag pattern flag)

def customRegex (pattern : Text) : Except PatternFault Text :=
  if pattern.isEmpty then .error .empty
  else
    match patternLiteral? pattern with
    | none => .ok pattern
    | some (body, flags) =>
      if body.isEmpty then .error .empty
      else
        match inlineFlags pattern [] flags with
        | .error fault => .error fault
        | .ok [] => .ok body
        | .ok inline => .ok ("(?" ++ inline ++ ")" ++ body)

structure ClassPattern where
  spec : PatternSpec
  program : Regex.Program

namespace ClassPattern

def source : PatternSpec → Except PatternFault Text
  | .style s => .ok s.pattern
  | .custom pattern => customRegex pattern

def compile (spec : PatternSpec) : Except PatternFault ClassPattern :=
  match source spec with
  | .error fault => .error fault
  | .ok regex =>
    match Regex.compile? regex with
    | some program => .ok ⟨spec, program⟩
    | none => .error (.invalid spec.text)

/-- Whether a class name fits, without the dot in front of it. -/
def accepts (pattern : ClassPattern) (name : Text) : Bool := pattern.program.search name

end ClassPattern

end ClassLint
