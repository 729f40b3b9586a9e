import ClassLint.Text.Basic

/-! The encoding of characters as bytes, and ranges of characters as ranges of bytes. -/

namespace ClassLint.Regex

def bytesOf (n : Nat) : List Nat :=
  if n < 0x80 then [n]
  else if n < 0x800 then [0xC0 + n / 0x40, 0x80 + n % 0x40]
  else if n < 0x10000 then [0xE0 + n / 0x1000, 0x80 + n / 0x40 % 0x40, 0x80 + n % 0x40]
  else [0xF0 + n / 0x40000, 0x80 + n / 0x1000 % 0x40, 0x80 + n / 0x40 % 0x40, 0x80 + n % 0x40]

def bytesOfText (t : Text) : List Nat := t.flatMap fun c => bytesOf c.toNat

/-- One range of bytes after the other: the characters whose bytes lie in the ranges, each in its
own. -/
abbrev ByteRanges := List (Nat × Nat)

/-- Divides a range into such as are given by one range for each byte. Blocks of `2 ^ bits` code
points agree in all bytes but their last ones; a range of several blocks keeps whole blocks
together. -/
def divide : List Nat → Nat → Nat → List (Nat × Nat)
  | [], low, high => [(low, high)]
  | bits :: more, low, high =>
    let block := 1 <<< bits
    if low / block = high / block then [(low, high)]
    else
      let wholeLow := (low + block - 1) / block * block
      let wholeEnd := (high + 1) / block * block
      let head := if low < wholeLow then [(low, wholeLow - 1)] else []
      let middle := if wholeLow < wholeEnd then divide more wholeLow (wholeEnd - 1) else []
      let tail := if wholeEnd ≤ high then [(wholeEnd, high)] else []
      head ++ middle ++ tail

def cutAt : List Nat → Nat → Nat → List (Nat × Nat)
  | [], low, high => [(low, high)]
  | last :: more, low, high =>
    if low ≤ last && last < high then (low, last) :: cutAt more (last + 1) high
    else cutAt more low high

def byteRanges (low high : Nat) : List ByteRanges :=
  (cutAt [0x7F, 0x7FF, 0xFFFF] low high).flatMap fun part =>
    (if part.2 < 0x80 then [part] else divide [6, 12, 18] part.1 part.2).map fun piece =>
      (bytesOf piece.1).zip (bytesOf piece.2)

end ClassLint.Regex
