import ClassLint.Decimal.Binary64

/-! JSON values. -/

namespace ClassLint

/-- A number is an integer while it fits into 64 bits, and a binary64 number otherwise. -/
inductive JsonNumber where
  | natural (value : Nat)
  | negative (magnitude : Nat)
  | binary (value : Binary64)
  deriving DecidableEq, Repr

inductive Json where
  | null
  | bool (value : Bool)
  | number (value : JsonNumber)
  | string (value : Text)
  | array (items : List Json)
  | object (members : List (Text × Json))
  deriving Repr

namespace Json

/-- Members by increasing key, the last one of each key. -/
def sortMembers (members : List (Text × Json)) : List (Text × Json) :=
  members.foldl (fun sorted member => insertEntry member.1 member.2 sorted) []

mutual

def normal : Json → Json
  | .array items => .array (normalItems items)
  | .object members => .object (sortMembers (normalMembers members))
  | value => value

def normalItems : List Json → List Json
  | [] => []
  | item :: items => item.normal :: normalItems items

def normalMembers : List (Text × Json) → List (Text × Json)
  | [] => []
  | (key, value) :: members => (key, value.normal) :: normalMembers members

end

def field? (name : Text) : Json → Option Json
  | .object members => (members.find? fun member => member.1 = name).map Prod.snd
  | _ => none

end Json

end ClassLint
