import ClassLint.Options
import ClassLint.Rule

/-! Configuration: which rules are on, and with which options. -/

namespace ClassLint

/-- Whether a rule is on, as a boolean or as a word. -/
inductive PrimaryOption where
  | enabled (value : Bool)
  | always
  | never
  deriving DecidableEq, Repr

namespace PrimaryOption

def isEnabled : PrimaryOption → Bool
  | .enabled value => value
  | .always => true
  | .never => false

def ofWord? (t : Text) : Option PrimaryOption :=
  if t = "always" then some .always else if t = "never" then some .never else none

/-- A word may also be written as the only key of an object, with null as its value. -/
def ofJson? : Json → Option PrimaryOption
  | .bool value => some (.enabled value)
  | .string t => ofWord? t
  | .object [(t, .null)] => ofWord? t
  | _ => none

def toJson : PrimaryOption → Json
  | .enabled value => .bool value
  | .always => .string "always"
  | .never => .string "never"

end PrimaryOption

inductive RuleSetting where
  | primary (option : PrimaryOption)
  | single (option : PrimaryOption)
  | withOptions (option : PrimaryOption) (secondary : Json)
  deriving Repr

namespace RuleSetting

def option : RuleSetting → PrimaryOption
  | .primary o | .single o | .withOptions o _ => o

def secondary? : RuleSetting → Option Json
  | .withOptions _ value => some value
  | .primary _ | .single _ => none

/-- The setting a value with members as written stands for. Secondary options keep the last member
of each key. -/
def ofJson? : Json → Option RuleSetting
  | .array [first] => (PrimaryOption.ofJson? first).map .single
  | .array [first, second] =>
    (PrimaryOption.ofJson? first).map fun o => .withOptions o second.normal
  | value => (PrimaryOption.ofJson? value).map .primary

def toJson : RuleSetting → Json
  | .primary o => o.toJson
  | .single o => .array [o.toJson]
  | .withOptions o value => .array [o.toJson, value]

end RuleSetting

/-- Settings by rule name, in increasing order and one for each name. -/
structure Config where
  rules : List (Text × RuleSetting)
  deriving Repr

namespace Config

def empty : Config := ⟨[]⟩

def withRule (config : Config) (name : Text) (setting : RuleSetting) : Config :=
  ⟨insertEntry name setting config.rules⟩

def frameworkComponents : List Text := ["btn", "container", "checkbox", "radio"]

def recommended : Config :=
  (empty.withRule RuleName.noDescendantCombinator.text (.primary .always)).withRule
    RuleName.classFormat.text
    (.withOptions (.enabled true)
      (.object [("componentWhitelist".toList, .array (frameworkComponents.map .string))]))

def toJson (config : Config) : Json :=
  .object [("rules".toList, .object (config.rules.map fun entry => (entry.1, entry.2.toJson)))]

end Config

end ClassLint
