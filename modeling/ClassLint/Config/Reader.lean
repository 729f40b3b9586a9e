import ClassLint.Config
import ClassLint.Json.Skipper

/-! Reading a configuration from JSON text. The text is checked against the shape of a configuration
while it is read, so the first problem in it decides. -/

namespace ClassLint.Config

/-- A value of the wrong shape. What is not an array or object is read first, and may turn out to be
no JSON at all. -/
def misshapenAt (t : Text) : JsonFault :=
  match t with
  | '[' :: _ | '{' :: _ => .misshapen
  | t =>
    match Json.readScalar t with
    | .error fault => fault
    | .ok _ => .misshapen

/-- The entries of the rules up to the closing brace. A name that comes again takes the new setting. -/
def readEntries (fuel budget : Nat) (first : Bool) (config : Config) (t : Text) :
    Except JsonFault (Config × Text) :=
  match fuel with
  | 0 => .error .malformed
  | fuel + 1 => do
    match ← Json.nextItem? '}' first t with
    | none => return (config, (Json.skipGaps t).tail)
    | some t =>
      let (name, t) ← Json.readKey t
      let t ← Json.readColon t
      let (value, t) ← Json.readValue (Json.fuelFor t) budget t
      match RuleSetting.ofJson? value with
      | none => throw .misshapen
      | some setting => readEntries fuel budget false (config.withRule name setting) t

def readRules (budget : Nat) (t : Text) : Except JsonFault (Config × Text) :=
  match Json.skipGaps t with
  | '{' :: rest =>
    if budget ≤ 1 then .error .malformed
    else readEntries (Json.fuelFor rest) (budget - 1) true .empty rest
  | t => .error (misshapenAt t)

/-- The members of a configuration. Only the rules are wanted, and only once. -/
def readMembers (fuel budget : Nat) (first : Bool) (config? : Option Config) (t : Text) :
    Except JsonFault (Config × Text) :=
  match fuel with
  | 0 => .error .malformed
  | fuel + 1 => do
    match ← Json.nextItem? '}' first t with
    | none => return (config?.getD .empty, (Json.skipGaps t).tail)
    | some t =>
      let (key, t) ← Json.readKey t
      if key = "rules" then
        if config?.isSome then throw .misshapen
        let (config, t) ← readRules budget (← Json.readColon t)
        readMembers fuel budget false (some config) t
      else
        let t ← Json.readColon t
        readMembers fuel budget false config? (← Json.skipValue (Json.fuelFor t) t)

/-- A configuration as an array holds the rules and nothing else. -/
def readArray (budget : Nat) (t : Text) : Except JsonFault (Config × Text) := do
  match ← Json.nextItem? ']' true t with
  | none => return (.empty, (Json.skipGaps t).tail)
  | some t =>
    let (config, t) ← readRules budget t
    match Json.skipGaps t with
    | ']' :: rest => return (config, rest)
    | rest => throw (Json.faultAt rest)

def parse (t : Text) : Except JsonFault Config := do
  let budget := Json.depthBudget - 1
  let (config, rest) ← match Json.skipGaps t with
    | '[' :: rest => readArray budget rest
    | '{' :: rest => readMembers (Json.fuelFor rest) budget true none rest
    | t => .error (misshapenAt t)
  Json.readEnd rest
  return config

end ClassLint.Config
