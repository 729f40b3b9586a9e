import ClassLint.Sheet.Error
import ClassLint.Sheet.Node
import ClassLint.Text.Blank

/-! Declarations: a property and a value around the first free colon. -/

namespace ClassLint

structure ColonScan where
  quote? : Option Char
  depth : Nat
  deriving DecidableEq, Repr

def ColonScan.step (scan : ColonScan) (c : Char) : ColonScan :=
  match scan.quote? with
  | some quote => if c = quote then { scan with quote? := none } else scan
  | none =>
    match c with
    | '"' | '\'' => { scan with quote? := some c }
    | '(' | '[' => { scan with depth := scan.depth + 1 }
    | ')' | ']' => { scan with depth := scan.depth - 1 }
    | _ => scan

def splitColon (scan : ColonScan) : Text → Option Taken
  | [] => none
  | c :: rest =>
    if c = ':' && scan.quote?.isNone && scan.depth = 0 then some ([], rest)
    else (splitColon (scan.step c) rest).map (Taken.push c)

def importantWord : Text := "important"

/-- What stands before a closing exclamation mark and the word after it, in any ASCII case. -/
def beforeImportant? (t : Text) : Option Text :=
  let length := t.length - importantWord.length
  if importantWord.length ≤ t.length && (t.drop length).map Char.toLower = importantWord then
    let head := trimEnd (t.take length)
    if head.getLast? = some '!' then some (trimEnd head.dropLast) else none
  else none

def stripImportant (value : Text) : Text × Bool :=
  match beforeImportant? (trim value) with
  | some head => (head, true)
  | none => (trim value, false)

def Declaration.parse (t : Text) (position : Position) : Except SheetError Declaration :=
  match splitColon ⟨none, 0⟩ t with
  | none => .error ⟨.unknownWord (firstWord t), position⟩
  | some (property, value) =>
    let (value, important) := stripImportant value
    .ok ⟨trim property, value, important, position⟩

end ClassLint
