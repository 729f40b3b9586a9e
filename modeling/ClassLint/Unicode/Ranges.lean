import ClassLint.Text.Basic

/-! Sets of code points as sorted ranges, and the notation the tables are written in. -/

namespace ClassLint.Unicode

/-- Inclusive ranges of code points, in increasing order and with a gap after each. -/
abbrev Ranges := List (Nat × Nat)

def covers : Ranges → Nat → Bool
  | [], _ => false
  | (low, high) :: rest, n => low ≤ n && (n ≤ high || covers rest n)

namespace Ranges

def mergeAfter (first : Nat × Nat) (more : Ranges → Ranges) : Ranges → Ranges
  | [] => first :: more []
  | next :: rest =>
    if first.1 ≤ next.1 then first :: more (next :: rest)
    else next :: mergeAfter first more rest

def merge : Ranges → Ranges → Ranges
  | [], b => b
  | first :: a, b => mergeAfter first (merge a) b

def mergePairs : List Ranges → List Ranges
  | a :: b :: rest => merge a b :: mergePairs rest
  | rest => rest

/-- The ranges of all lists, in the order of their first code points. Each round halves the number
of lists. -/
def mergeRounds : Nat → List Ranges → Ranges
  | _, [] => []
  | _, [ranges] => ranges
  | 0, lists => lists.foldr merge []
  | rounds + 1, lists => mergeRounds rounds (mergePairs lists)

def joinFrom (low high : Nat) : Ranges → Ranges
  | [] => [(low, high)]
  | (next, last) :: rest =>
    if next ≤ high + 1 then joinFrom low (max high last) rest
    else (low, high) :: joinFrom next last rest

def join : Ranges → Ranges
  | [] => []
  | (low, high) :: rest => joinFrom low high rest

def unionAll (lists : List Ranges) : Ranges := join (mergeRounds lists.length lists)

def union (a b : Ranges) : Ranges := join (merge a b)

def lastCodePoint : Nat := 0x10FFFF

def gapsFrom (next : Nat) : Ranges → Ranges
  | [] => if next ≤ lastCodePoint then [(next, lastCodePoint)] else []
  | (low, high) :: rest =>
    if next < low then (next, low - 1) :: gapsFrom (high + 1) rest else gapsFrom (high + 1) rest

def surrogates : Ranges := [(0xD800, 0xDFFF)]

/-- Every character that is not covered. Surrogates are no characters. -/
def complement (ranges : Ranges) : Ranges := gapsFrom 0 (union surrogates ranges)

def intersection (a b : Ranges) : Ranges := complement (union (complement a) (complement b))

def difference (a b : Ranges) : Ranges := complement (union (complement a) b)

end Ranges

def hexDigit (c : Char) : Nat :=
  if c.isDigit then c.toNat - 48 else if 'a' ≤ c then c.toNat - 87 else c.toNat - 55

def hexValue (digits : Text) : Nat :=
  digits.foldl (fun value c => value * 16 + hexDigit c) 0

/-- Each word of a table is the gap to the next range and, after a plus sign, the number of code
points beyond its first. -/
def decodeFrom (next : Nat) : List Text → Ranges
  | [] => []
  | word :: rest =>
    match fields '+' word with
    | [gap] =>
      let low := next + hexValue gap
      (low, low) :: decodeFrom (low + 1) rest
    | [gap, more] =>
      let low := next + hexValue gap
      let high := low + hexValue more
      (low, high) :: decodeFrom (high + 1) rest
    | _ => decodeFrom next rest

def decode (table : String) : Ranges :=
  decodeFrom 0 (words table.toList)

end ClassLint.Unicode
