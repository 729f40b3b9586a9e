import ClassLint.Text.Basic

/-! What a run records as it goes: notices, each given once, and the steps of the rules. -/

namespace ClassLint

inductive Entry where
  | activated (rules : List Text)
  | visited (rule selector : Text)
  | checked (rule : Text) (selectors? : Option Nat) (diagnostics : Nat)
  | notice (component message : Text)
  deriving DecidableEq, Repr

/-- The keys of the notices given since they were last forgotten, and all entries in order. -/
structure Journal where
  seen : List Text
  entries : Array Entry
  deriving DecidableEq, Repr

abbrev Journaled := StateM Journal

namespace Journal

def empty : Journal := ⟨[], #[]⟩

def key (component message : Text) : Text := '[' :: component ++ "] " ++ message

def record (entry : Entry) : Journaled Unit :=
  modify fun journal => { journal with entries := journal.entries.push entry }

/-- Gives a notice unless one of the same key was given before, and answers whether it did. -/
def notify (component message : Text) : Journaled Bool := do
  let journal ← get
  if journal.seen.contains (key component message) then return false
  set { journal with
    seen := key component message :: journal.seen
    entries := journal.entries.push (.notice component message) : Journal }
  return true

def forgetNotices : Journaled Unit := modify fun journal => { journal with seen := [] }

def notices (journal : Journal) : List (Text × Text) :=
  journal.entries.toList.filterMap fun
    | .notice component message => some (component, message)
    | _ => none

end Journal

end ClassLint
