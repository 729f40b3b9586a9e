/-! Splitting a list into the runs between separators. -/

namespace ClassLint

inductive Segment (α : Type) where
  | run (items : List α)
  | separator (item : α)
  deriving DecidableEq, Repr

namespace Segment

variable {α σ : Type}

def run? : Segment α → Option (List α)
  | .run items => some items
  | .separator _ => none

def items : Segment α → List α
  | .run items => items
  | .separator item => [item]

/-- Each item with the answer of a predicate that sees its index and may keep a state. -/
def answers (separates : α → Nat → StateM σ Bool) : Nat → List α → StateM σ (List (α × Bool))
  | _, [] => pure []
  | index, item :: rest => do
    let answer ← separates item index
    let more ← answers separates (index + 1) rest
    return (item, answer) :: more

def extend (item : α) : List (Segment α) → List (Segment α)
  | .run items :: segments => .run (item :: items) :: segments
  | segments => .run [item] :: segments

def ofAnswers : List (α × Bool) → List (Segment α)
  | [] => [.run []]
  | (item, true) :: rest => .run [] :: .separator item :: ofAnswers rest
  | (item, false) :: rest => extend item (ofAnswers rest)

/-- Splits and keeps the separators; nothing comes from an empty list. -/
def split (separates : α → Nat → StateM σ Bool) (list : List α) : StateM σ (List (Segment α)) := do
  let answered ← answers separates 0 list
  return if list.isEmpty then [] else ofAnswers answered

def splitBy (separates : α → Bool) (list : List α) : List (Segment α) :=
  if list.isEmpty then [] else ofAnswers (list.map fun item => (item, separates item))

def dropTrailingEmpty : List (List α) → List (List α)
  | [] => []
  | first :: rest =>
    match first, dropTrailingEmpty rest with
    | [], [] => []
    | first, kept => first :: kept

/-- The runs alone, without the empty ones at the end. -/
def runs (segments : List (Segment α)) : List (List α) :=
  dropTrailingEmpty (segments.filterMap run?)

end Segment

end ClassLint
