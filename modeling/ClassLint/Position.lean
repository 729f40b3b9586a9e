import ClassLint.Text.Basic

/-! Places in a source text, counted in lines and characters from one. -/

namespace ClassLint

structure Position where
  line : Nat
  column : Nat
  deriving DecidableEq, Repr

namespace Position

def start : Position := ⟨1, 1⟩

/-- Only a line feed starts a new line. -/
def next (position : Position) (c : Char) : Position :=
  if c = '\n' then ⟨position.line + 1, 1⟩ else ⟨position.line, position.column + 1⟩

def advance (position : Position) (t : Text) : Position := t.foldl next position

def text (position : Position) : Text := decimal position.line ++ ':' :: decimal position.column

theorem advance_append (position : Position) (s t : Text) :
    position.advance (s ++ t) = (position.advance s).advance t := by
  simp [advance]

end Position

end ClassLint
