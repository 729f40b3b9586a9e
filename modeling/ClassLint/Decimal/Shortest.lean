import ClassLint.Decimal.Binary64

/-! The shortest decimal text of a binary64 number: the fewest digits that read back as the same
number, and of those the nearest. -/

namespace ClassLint

structure Scientific where
  digits : Nat
  exponent : Int
  deriving DecidableEq, Repr

namespace Shortest

/-- A positive binary64 number and the interval of reals that round to it, all in units of
`2 ^ unit`. -/
structure Interval where
  low : Nat
  value : Nat
  high : Nat
  unit : Int
  closed : Bool
  deriving DecidableEq, Repr

def Interval.ofBits (bits : Nat) : Interval :=
  let fraction := bits % (1 <<< 52)
  let biased := bits / (1 <<< 52) % (1 <<< 11)
  let significand := if biased = 0 then fraction else fraction + 1 <<< 52
  let power : Int := (if biased = 0 then 1 else biased : Nat) - 1075
  let narrow := fraction = 0 && 1 < biased
  { low := 4 * significand - if narrow then 1 else 2
    value := 4 * significand
    high := 4 * significand + 2
    unit := power - 2
    closed := significand % 2 = 0 }

def ratio (multiple : Nat) (unit exponent : Int) : Nat × Nat :=
  (multiple <<< unit.toNat * Nat.pow 10 (-exponent).toNat,
    1 <<< (-unit).toNat * Nat.pow 10 exponent.toNat)

def comparePoint (point multiple : Nat) (unit exponent : Int) : Ordering :=
  let (numerator, denominator) := ratio multiple unit exponent
  compare (point * denominator) numerator

def Interval.holds (i : Interval) (point : Nat) (exponent : Int) : Bool :=
  let low := comparePoint point i.low i.unit exponent
  let high := comparePoint point i.high i.unit exponent
  (low == .gt || (i.closed && low == .eq)) && (high == .lt || (i.closed && high == .eq))

def leadingExponent (i : Interval) : Nat → Int → Int
  | 0, start => start
  | steps + 1, start =>
    let (numerator, denominator) := ratio i.value i.unit start
    if denominator ≤ numerator then start else leadingExponent i steps (start - 1)

/-- The neighbour of the value on a grid that lies in the interval, the nearer one if both do. -/
def onGrid? (i : Interval) (exponent : Int) : Option Scientific :=
  let (numerator, denominator) := ratio i.value i.unit exponent
  let below := numerator / denominator
  let excess := 2 * (numerator % denominator)
  let preferAbove := denominator < excess || (denominator = excess && below % 2 = 1)
  let candidates := if preferAbove then [below + 1, below] else [below, below + 1]
  (candidates.find? fun point => i.holds point exponent).map fun point => ⟨point, exponent⟩

/-- Finer and finer grids, from one that the value does not reach, as the next power of ten may
stand for it. -/
def search (i : Interval) : Nat → Int → Scientific
  | 0, exponent => ⟨i.value, exponent⟩
  | steps + 1, exponent =>
    match onGrid? i exponent with
    | some found => found
    | none => search i steps (exponent - 1)

def ofBits (bits : Nat) : Scientific :=
  let i := Interval.ofBits bits
  search i 18 (leadingExponent i 700 310 + 1)

end Shortest

/-- Positional text while the decimal point stands among the first sixteen digits or up to five
places before them, and an exponent with its sign and without padding otherwise. -/
def Scientific.text (s : Scientific) : Text :=
  let digits := decimal s.digits
  let point := (digits.length : Int) + s.exponent
  if 0 ≤ s.exponent && point ≤ 16 then
    digits ++ List.replicate s.exponent.toNat '0' ++ ".0".toList
  else if 0 < point && point ≤ 16 then
    digits.take point.toNat ++ '.' :: digits.drop point.toNat
  else if -5 < point && point ≤ 0 then
    "0.".toList ++ List.replicate (-point).toNat '0' ++ digits
  else
    let power := point - 1
    let sign := if power < 0 then '-' else '+'
    let mantissa := match digits with
      | [] => []
      | [d] => [d]
      | d :: more => d :: '.' :: more
    mantissa ++ 'e' :: sign :: decimal power.natAbs

def Binary64.text (x : Binary64) : Text :=
  let bits := x.bits.toNat
  let sign : Text := if bits / (1 <<< 63) = 1 then ['-'] else []
  let magnitude := bits % (1 <<< 63)
  sign ++ if magnitude = 0 then "0.0".toList else (Shortest.ofBits magnitude).text

end ClassLint
