import ClassLint.Json.Value

/-! Reading JSON text from left to right: the first problem in the text decides what is reported. -/

namespace ClassLint

/-- The text ends too early, is not JSON, or is JSON of another shape than wanted. -/
inductive JsonFault where
  | ended
  | malformed
  | misshapen
  deriving DecidableEq, Repr

def JsonFault.category : JsonFault → Text
  | .ended => "eof"
  | .malformed => "syntax"
  | .misshapen => "data"

namespace Json

/-- How deep brackets may nest: the bracket that would exhaust the budget is refused. -/
def depthBudget : Nat := 128

def isGap (c : Char) : Bool := c = ' ' || c = '\t' || c = '\n' || c = '\r'

def skipGaps (t : Text) : Text := t.dropWhile isGap

def faultAt : Text → JsonFault
  | [] => .ended
  | _ => .malformed

def readWord : Text → Text → Except JsonFault Text
  | [], t => .ok t
  | _ :: _, [] => .error .ended
  | w :: word, c :: t => if c = w then readWord word t else .error .malformed

/-! ## Strings -/

def hexDigit? (c : Char) : Option Nat :=
  if c.isDigit then some (c.toNat - 48)
  else if 'a' ≤ c && c ≤ 'f' then some (c.toNat - 87)
  else if 'A' ≤ c && c ≤ 'F' then some (c.toNat - 55)
  else none

/-- Four hexadecimal digits. The text has ended if fewer than four bytes are left. -/
def readUnit (t : Text) : Except JsonFault (Nat × Text) :=
  match t with
  | a :: b :: c :: d :: rest =>
    match hexDigit? a, hexDigit? b, hexDigit? c, hexDigit? d with
    | some a, some b, some c, some d => .ok (((a * 16 + b) * 16 + c) * 16 + d, rest)
    | _, _, _, _ => .error .malformed
  | short => if byteLength short < 4 then .error .ended else .error .malformed

def readLowSurrogate (high : Nat) (t : Text) : Except JsonFault (Char × Text) :=
  match t with
  | '\\' :: 'u' :: rest =>
    match readUnit rest with
    | .error fault => .error fault
    | .ok (low, rest) =>
      if 0xDC00 ≤ low && low ≤ 0xDFFF then
        .ok (Char.ofNat ((high - 0xD800) * 1024 + (low - 0xDC00) + 0x10000), rest)
      else .error .malformed
  | '\\' :: rest => .error (faultAt rest)
  | rest => .error (faultAt rest)

def readUnicode (t : Text) : Except JsonFault (Char × Text) :=
  match readUnit t with
  | .error fault => .error fault
  | .ok (unit, rest) =>
    if 0xDC00 ≤ unit && unit ≤ 0xDFFF then .error .malformed
    else if 0xD800 ≤ unit && unit ≤ 0xDBFF then readLowSurrogate unit rest
    else .ok (Char.ofNat unit, rest)

def readEscape : Text → Except JsonFault (Char × Text)
  | [] => .error .ended
  | 'u' :: rest => readUnicode rest
  | c :: rest =>
    match c with
    | '"' | '\\' | '/' => .ok (c, rest)
    | 'b' => .ok (Char.ofNat 8, rest)
    | 'f' => .ok (Char.ofNat 12, rest)
    | 'n' => .ok ('\n', rest)
    | 'r' => .ok ('\r', rest)
    | 't' => .ok ('\t', rest)
    | _ => .error .malformed

theorem readUnit_shorter {t rest : Text} {unit : Nat} (read : readUnit t = .ok (unit, rest)) :
    rest.length < t.length := by
  unfold readUnit at read
  grind

theorem readEscape_shorter {t rest : Text} {c : Char} (read : readEscape t = .ok (c, rest)) :
    rest.length < t.length := by
  unfold readEscape readUnicode readLowSurrogate at read
  grind [→ readUnit_shorter]

def readString (t : Text) : Except JsonFault Taken :=
  match t with
  | [] => .error .ended
  | '"' :: rest => .ok ([], rest)
  | '\\' :: rest =>
    match read : readEscape rest with
    | .error fault => .error fault
    | .ok (c, after) =>
      have := readEscape_shorter read
      (readString after).map (Taken.push c)
  | c :: rest =>
    if c.toNat < 32 then .error .malformed else (readString rest).map (Taken.push c)
termination_by t.length
decreasing_by all_goals simp_all; try omega

/-! ## Numbers -/

def digitValue (c : Char) : Nat := c.toNat - 48

def digitsValue (digits : Text) : Nat := digits.foldl (fun n c => n * 10 + digitValue c) 0

structure Literal where
  integer : Text
  fraction? : Option Text
  exponent? : Option (Bool × Text)
  deriving DecidableEq, Repr

def readDigits (t : Text) : Except JsonFault Taken :=
  match t.takeWhile Char.isDigit with
  | [] => .error (faultAt t)
  | digits => .ok (digits, t.dropWhile Char.isDigit)

def readInteger (t : Text) : Except JsonFault Taken :=
  match readDigits t with
  | .ok ('0' :: _ :: _, _) => .error .malformed
  | outcome => outcome

def readFraction : Text → Except JsonFault (Option Text × Text)
  | '.' :: rest => (readDigits rest).map fun taken => (some taken.1, taken.2)
  | rest => .ok (none, rest)

def readExponent : Text → Except JsonFault (Option (Bool × Text) × Text)
  | c :: rest =>
    if c = 'e' || c = 'E' then
      match rest with
      | '+' :: rest => (readDigits rest).map fun taken => (some (false, taken.1), taken.2)
      | '-' :: rest => (readDigits rest).map fun taken => (some (true, taken.1), taken.2)
      | rest => (readDigits rest).map fun taken => (some (false, taken.1), taken.2)
    else .ok (none, c :: rest)
  | [] => .ok (none, [])

def readLiteral (t : Text) : Except JsonFault (Literal × Text) := do
  let (integer, rest) ← readInteger t
  let (fraction?, rest) ← readFraction rest
  let (exponent?, rest) ← readExponent rest
  return (⟨integer, fraction?, exponent?⟩, rest)

/-- Digits are added to a significand while it fits into 64 bits; the digits beyond are left. -/
def accumulate (significand : Nat) : Text → Nat × Text
  | [] => (significand, [])
  | c :: digits =>
    let next := significand * 10 + digitValue c
    if next < 1 <<< 64 then accumulate next digits else (significand, c :: digits)

/-- Digits of the integer part that do not fit count as places, and those of the fraction are
dropped. -/
def Literal.parts (l : Literal) : Nat × Int :=
  let (whole, spilled) := accumulate 0 l.integer
  let fraction := l.fraction?.getD []
  let (significand, dropped) := accumulate whole fraction
  (significand, (spilled.length : Int) - (fraction.length - dropped.length : Nat))

def Literal.binary? (negative : Bool) (l : Literal) : Option Binary64 :=
  let (significand, places) := l.parts
  match l.exponent? with
  | none => Binary64.ofParts? negative significand places
  | some (below, digits) =>
    let exponent := digitsValue digits
    if 1 <<< 31 ≤ exponent then
      if significand ≠ 0 && !below then none else some (Binary64.zero negative)
    else
      Binary64.ofParts? negative significand
        (if below then places - exponent else places + exponent)

/-- Plain digits are an integer where they fit into 64 bits, with a sign where they fit into 63, and
minus zero is not one. -/
def Literal.number? (negative : Bool) (l : Literal) : Option JsonNumber :=
  let n := digitsValue l.integer
  if l.fraction?.isNone && l.exponent?.isNone && n < 1 <<< 64 then
    if !negative then some (.natural n)
    else if 1 ≤ n && n ≤ 1 <<< 63 then some (.negative n)
    else some (.binary (.ofFloat (-(UInt64.ofNat n).toFloat)))
  else (l.binary? negative).map .binary

def readNumber (negative : Bool) (t : Text) : Except JsonFault (Json × Text) :=
  match readLiteral t with
  | .error fault => .error fault
  | .ok (l, rest) =>
    match l.number? negative with
    | some n => .ok (.number n, rest)
    | none => .error .malformed

/-! ## Values -/

def readScalar (t : Text) : Except JsonFault (Json × Text) :=
  match t with
  | [] => .error .ended
  | '"' :: rest => (readString rest).map fun taken => (.string taken.1, taken.2)
  | '-' :: rest => readNumber true rest
  | 'n' :: rest => (readWord "ull" rest).map fun rest => (.null, rest)
  | 't' :: rest => (readWord "rue" rest).map fun rest => (.bool true, rest)
  | 'f' :: rest => (readWord "alse" rest).map fun rest => (.bool false, rest)
  | c :: rest => if c.isDigit then readNumber false (c :: rest) else .error .malformed

/-- What stands before the next item: nothing before the first, a comma before the others. The list
is at its end if nothing is returned. -/
def nextItem? (closing : Char) (first : Bool) (t : Text) : Except JsonFault (Option Text) :=
  match skipGaps t with
  | [] => .error .ended
  | c :: rest =>
    if c = closing then .ok none
    else if first then .ok (some (c :: rest))
    else if c = ',' then
      match skipGaps rest with
      | [] => .error .ended
      | c :: rest => if c = closing then .error .malformed else .ok (some (c :: rest))
    else .error .malformed

def readKey : Text → Except JsonFault Taken
  | '"' :: rest => readString rest
  | rest => .error (faultAt rest)

def readColon (t : Text) : Except JsonFault Text :=
  match skipGaps t with
  | ':' :: rest => .ok rest
  | rest => .error (faultAt rest)

mutual

/-- A value with its members as written. `fuel` bounds the calls and `budget` the nesting. -/
def readValue (fuel budget : Nat) (t : Text) : Except JsonFault (Json × Text) :=
  match fuel with
  | 0 => .error .malformed
  | fuel + 1 =>
    match skipGaps t with
    | '[' :: rest =>
      if budget ≤ 1 then .error .malformed
      else (readItems fuel (budget - 1) true rest).map fun (items, rest) => (.array items, rest)
    | '{' :: rest =>
      if budget ≤ 1 then .error .malformed
      else (readMembers fuel (budget - 1) true rest).map fun (members, rest) =>
        (.object members, rest)
    | t => readScalar t

def readItems (fuel budget : Nat) (first : Bool) (t : Text) :
    Except JsonFault (List Json × Text) :=
  match fuel with
  | 0 => .error .malformed
  | fuel + 1 => do
    match ← nextItem? ']' first t with
    | none => return ([], (skipGaps t).tail)
    | some t =>
      let (item, rest) ← readValue fuel budget t
      let (items, rest) ← readItems fuel budget false rest
      return (item :: items, rest)

def readMembers (fuel budget : Nat) (first : Bool) (t : Text) :
    Except JsonFault (List (Text × Json) × Text) :=
  match fuel with
  | 0 => .error .malformed
  | fuel + 1 => do
    match ← nextItem? '}' first t with
    | none => return ([], (skipGaps t).tail)
    | some t =>
      let (key, rest) ← readKey t
      let (value, rest) ← readValue fuel budget (← readColon rest)
      let (members, rest) ← readMembers fuel budget false rest
      return ((key, value) :: members, rest)

end

/-- Enough fuel for any text: a character is read by at most two calls. -/
def fuelFor (t : Text) : Nat := 2 * t.length + 2

def readEnd (t : Text) : Except JsonFault Unit :=
  if (skipGaps t).isEmpty then .ok () else .error .malformed

def parse (t : Text) : Except JsonFault Json := do
  let (value, rest) ← readValue (fuelFor t) depthBudget t
  readEnd rest
  return value

end Json

end ClassLint
