import ClassLint.Json.Reader
import ClassLint.Json.Writer
import ClassLint.Pattern

/-! The options of the class format rule, as configured and as compiled. -/

namespace ClassLint

/-- On with the default style, off, or a style or pattern of one's own. -/
inductive PatternOption where
  | enabled (value : Bool)
  | pattern (text : Text)
  deriving DecidableEq, Repr

structure SecondaryOptions where
  component? : Option PatternOption := none
  element? : Option PatternOption := none
  variant? : Option PatternOption := none
  helper? : Option PatternOption := none
  maxDepth? : Option Nat := some 3
  whitelist : List Text := []
  deriving DecidableEq, Repr

structure OptionFault where
  option : Text
  fault : PatternFault
  deriving DecidableEq, Repr

structure ResolvedOptions where
  component? : Option ClassPattern
  element? : Option ClassPattern
  variant? : Option ClassPattern
  helper? : Option ClassPattern
  maxDepth? : Option Nat
  whitelist : List Text

namespace PatternOption

def spec? (style : Style) : Option PatternOption → Option PatternSpec
  | none | some (.enabled true) => some (.style style)
  | some (.enabled false) => none
  | some (.pattern text) => some (.ofText text)

def resolve (style : Style) (option? : Option PatternOption) :
    Except OptionFault (Option ClassPattern) :=
  match spec? style option? with
  | none => .ok none
  | some spec =>
    match ClassPattern.compile spec with
    | .ok compiled => .ok (some compiled)
    | .error fault => .error ⟨style.name, fault⟩

def ofJson? : Json → Option PatternOption
  | .bool value => some (.enabled value)
  | .string text => some (.pattern text)
  | _ => none

def toJson : PatternOption → Json
  | .enabled value => .bool value
  | .pattern text => .string text

end PatternOption

namespace ResolvedOptions

/-- Compiles the patterns in a fixed order; the first that fails is reported. -/
def resolve (options : SecondaryOptions) : Except OptionFault ResolvedOptions := do
  let component? ← PatternOption.resolve .component options.component?
  let element? ← PatternOption.resolve .element options.element?
  let variant? ← PatternOption.resolve .variant options.variant?
  let helper? ← PatternOption.resolve .helper options.helper?
  return ⟨component?, element?, variant?, helper?, options.maxDepth?, options.whitelist⟩

/-- Listed names are components whatever their shape. -/
def isComponent (options : ResolvedOptions) (name : Text) : Bool :=
  options.whitelist.contains name || options.component?.any fun pattern => pattern.accepts name

end ResolvedOptions

namespace SecondaryOptions

def fieldNames : List Text :=
  ["component", "element", "variant", "helper", "maxDepth", "componentWhitelist"]

def readPattern : Option Json → Except JsonFault (Option PatternOption)
  | none | some .null => .ok none
  | some value =>
    match PatternOption.ofJson? value with
    | some option => .ok (some option)
    | none => .error .misshapen

def readDepth : Option Json → Except JsonFault (Option Nat)
  | none => .ok (some 3)
  | some .null => .ok none
  | some (.number (.natural n)) => if n < 1 <<< 32 then .ok (some n) else .error .misshapen
  | some _ => .error .misshapen

def readName : Json → Except JsonFault Text
  | .string name => .ok name
  | _ => .error .misshapen

def readWhitelist : Option Json → Except JsonFault (List Text)
  | none => .ok []
  | some (.array items) => items.mapM readName
  | some _ => .error .misshapen

def ofFields (field? : Nat → Option Json) : Except JsonFault SecondaryOptions := do
  let component? ← readPattern (field? 0)
  let element? ← readPattern (field? 1)
  let variant? ← readPattern (field? 2)
  let helper? ← readPattern (field? 3)
  let maxDepth? ← readDepth (field? 4)
  let whitelist ← readWhitelist (field? 5)
  return ⟨component?, element?, variant?, helper?, maxDepth?, whitelist⟩

/-- Options are an object, whose unknown members are left out, or an array of the fields in order,
of which the last may be missing. -/
def ofJson (value : Json) : Except JsonFault SecondaryOptions :=
  match value with
  | .object members => ofFields fun index =>
      fieldNames[index]?.bind fun name => (Json.object members).field? name
  | .array items => if items.length ≤ 6 then ofFields fun index => items[index]? else .error .misshapen
  | _ => .error .misshapen

def toJson (options : SecondaryOptions) : Json :=
  let pattern (name : Text) (option? : Option PatternOption) : List (Text × Json) :=
    option?.toList.map fun option => (name, option.toJson)
  let depth : Json := match options.maxDepth? with
    | some n => .number (.natural n)
    | none => .null
  .object (pattern "component" options.component? ++ pattern "element" options.element? ++
    pattern "variant" options.variant? ++ pattern "helper" options.helper? ++
    [("maxDepth".toList, depth),
      ("componentWhitelist".toList, .array (options.whitelist.map .string))])

end SecondaryOptions

end ClassLint
