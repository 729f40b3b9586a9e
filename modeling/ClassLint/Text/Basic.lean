/-! Text as a list of characters, and the few operations on it that every module needs. -/

namespace ClassLint

/-- Text is a list of Unicode scalar values; a position in it is a number of characters. -/
abbrev Text := List Char

instance : Coe String Text := ⟨String.toList⟩

/-- What a reader took from the start of a text, and what it left. -/
abbrev Taken := Text × Text

def Taken.push (c : Char) (taken : Taken) : Taken := (c :: taken.1, taken.2)

def decimal (n : Nat) : Text := Nat.toDigits 10 n

def byteLength : Text → Nat
  | [] => 0
  | c :: rest => c.utf8Size + byteLength rest

def cited (t : Text) : Text := '\'' :: t ++ ['\'']

def fields {α : Type} [DecidableEq α] (separator : α) : List α → List (List α)
  | [] => [[]]
  | a :: rest =>
    match fields separator rest with
    | [] => [[a]]
    | field :: more => if a = separator then [] :: field :: more else (a :: field) :: more

def words (t : Text) : List Text :=
  ((fields '\n' t).flatMap (fields ' ')).filter fun word => !word.isEmpty

def sameLetters (a b : Text) : Bool := a.map Char.toLower == b.map Char.toLower

/-- Code point order, which is also the order of the encoded bytes. -/
def precedes : Text → Text → Bool
  | [], [] => false
  | [], _ :: _ => true
  | _ :: _, [] => false
  | a :: s, b :: t => a < b || (a = b && precedes s t)

/-- Puts an entry where its name belongs, in place of an earlier one of that name. -/
def insertEntry {α : Type} (name : Text) (value : α) : List (Text × α) → List (Text × α)
  | [] => [(name, value)]
  | entry :: rest =>
    if name = entry.1 then (name, value) :: rest
    else if precedes name entry.1 then (name, value) :: entry :: rest
    else entry :: insertEntry name value rest

theorem exists_of_map_eq_ok {ε α β : Type} {f : α → β} {outcome : Except ε α} {b : β}
    (mapped : outcome.map f = .ok b) : ∃ a, outcome = .ok a ∧ f a = b := by
  cases outcome with
  | error e => simp [Except.map] at mapped
  | ok a => exact ⟨a, rfl, by simpa [Except.map] using mapped⟩

theorem map_eq_error_iff {ε α β : Type} {f : α → β} {outcome : Except ε α} {error : ε} :
    outcome.map f = .error error ↔ outcome = .error error := by
  cases outcome <;> simp [Except.map]

end ClassLint
