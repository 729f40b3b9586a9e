import ClassLint.Json.Reader
import ClassLint.Regex.Expr
import ClassLint.Text.Blank

/-! Blanks in verbose patterns, and what a backslash stands for. -/

namespace ClassLint.Regex

def skipBlanks (inComment : Bool) : Text → Text
  | [] => []
  | c :: rest =>
    if inComment then skipBlanks (c ≠ '\n') rest
    else if isBlank c then skipBlanks false rest
    else if c = '#' then skipBlanks true rest
    else c :: rest

def skipIf (verbose : Bool) (t : Text) : Text := if verbose then skipBlanks false t else t

def takeBraced (verbose inComment : Bool) : Text → Option Taken
  | [] => none
  | c :: rest =>
    if inComment then takeBraced verbose (c ≠ '\n') rest
    else if verbose && isBlank c then takeBraced verbose false rest
    else if verbose && c = '#' then takeBraced verbose true rest
    else if c = '}' then some ([], rest)
    else (takeBraced verbose false rest).map (Taken.push c)

def hexDigits? (t : Text) : Option (List Nat) := t.mapM Json.hexDigit?

def scalarOf? (digits : List Nat) : Option Char :=
  let n := digits.foldl (fun n d => n * 16 + d) 0
  if n < 0xD800 || (0xDFFF < n && n < 0x110000) then some (Char.ofNat n) else none

def takeHexDigits (verbose : Bool) : Nat → Text → Option (List Nat × Text)
  | 0, t => some ([], t)
  | _ + 1, [] => none
  | count + 1, c :: rest => do
    let digit ← Json.hexDigit? c
    let (digits, rest) ← takeHexDigits verbose count (skipIf verbose rest)
    return (digit :: digits, rest)

/-- A code point of that many digits, or of any number of digits in braces. -/
def readHex (verbose : Bool) (count : Nat) (t : Text) : Option (Expr × Text) :=
  match skipIf verbose t with
  | [] => none
  | '{' :: rest => do
    let (inside, rest) ← takeBraced verbose false rest
    let digits ← hexDigits? inside
    if digits.isEmpty then none
    return (.scalar ⟨← scalarOf? digits, false⟩, skipIf verbose rest)
  | t => do
    let (digits, rest) ← takeHexDigits verbose count t
    return (.scalar ⟨← scalarOf? digits, count = 2⟩, rest)

def splitAtMark? (mark : Text) : Text → Option Taken
  | [] => none
  | c :: rest =>
    if mark.isPrefixOf (c :: rest) then some ([], (c :: rest).drop mark.length)
    else (splitAtMark? mark rest).map (Taken.push c)

/-- A property name, or a name and a value with an equals sign, a colon or an inequality between. -/
def readQuery (inside : Text) (negated : Bool) : Expr :=
  match splitAtMark? "!=" inside with
  | some (name, value) => .property (.valued name value) (!negated)
  | none =>
    match (splitAtMark? ":" inside).orElse fun _ => splitAtMark? "=" inside with
    | some (name, value) => .property (.valued name value) negated
    | none => .property (.named inside) negated

def readProperty (verbose negated : Bool) (t : Text) : Option (Expr × Text) :=
  match skipIf verbose t with
  | [] => none
  | '{' :: rest => do
    let (inside, rest) ← takeBraced verbose false rest
    return (readQuery inside negated, rest)
  | c :: rest =>
    if c = '\\' then none else some (.property (.named [c]) negated, skipIf verbose rest)

def isBoundaryLetter (c : Char) : Bool := c.isAlpha || c = '-'

/-- After a word boundary, a name in braces may choose a side; digits there are a repetition. -/
def readBoundary (verbose : Bool) (t : Text) : Option (Expr × Text) :=
  match t with
  | '{' :: rest =>
    match skipIf verbose rest with
    | [] => none
    | c :: _ =>
      if isBoundaryLetter c then do
        let (name, after) ← takeBraced verbose false rest
        if name = "start" then return (.anchor .wordStart, after)
        else if name = "end" then return (.anchor .wordEnd, after)
        else if name = "start-half" then return (.anchor .wordStartHalf, after)
        else if name = "end-half" then return (.anchor .wordEndHalf, after)
        else none
      else some (.anchor .boundary, t)
  | t => some (.anchor .boundary, t)

/-- Punctuation stands for itself after a backslash, but for the two angle brackets. -/
def isEscapable (c : Char) : Bool :=
  c.toNat < 128 && !c.isAlphanum && c ≠ '<' && c ≠ '>'

def readEscape (verbose : Bool) : Text → Option (Expr × Text)
  | [] => none
  | c :: rest =>
    let scalar (n : Nat) : Option (Expr × Text) := some (.scalar ⟨Char.ofNat n, false⟩, rest)
    match c with
    | 'x' => readHex verbose 2 rest
    | 'u' => readHex verbose 4 rest
    | 'U' => readHex verbose 8 rest
    | 'p' => readProperty verbose false rest
    | 'P' => readProperty verbose true rest
    | 'd' => some (.shorthand .digit false, rest)
    | 'D' => some (.shorthand .digit true, rest)
    | 's' => some (.shorthand .blank false, rest)
    | 'S' => some (.shorthand .blank true, rest)
    | 'w' => some (.shorthand .word false, rest)
    | 'W' => some (.shorthand .word true, rest)
    | 'a' => scalar 7
    | 'f' => scalar 12
    | 't' => scalar 9
    | 'n' => scalar 10
    | 'r' => scalar 13
    | 'v' => scalar 11
    | 'A' => some (.anchor .textStart, rest)
    | 'z' => some (.anchor .textEnd, rest)
    | 'b' => readBoundary verbose rest
    | 'B' => some (.anchor .noBoundary, rest)
    | '<' => some (.anchor .wordStart, rest)
    | '>' => some (.anchor .wordEnd, rest)
    | c => if isEscapable c then some (.scalar ⟨c, false⟩, rest) else none

end ClassLint.Regex
