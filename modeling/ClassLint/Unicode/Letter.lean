import ClassLint.Unicode.Property

/-! The classes of characters that names and words are made of. -/

namespace ClassLint

namespace Unicode

def alphabeticRanges : Ranges := Property.alphabetic.ranges

def numberRanges : Ranges := categoryRanges Category.number

def digitRanges : Ranges := categoryRanges [.nd]

def blankRanges : Ranges := Property.whiteSpace.ranges

/-- Letters, marks, decimal digits, connecting punctuation and the joining controls. -/
def wordRanges : Ranges :=
  Ranges.unionAll [alphabeticRanges, categoryRanges (.nd :: .pc :: Category.mark),
    Property.joinControl.ranges]

/-- Names follow a later edition of the standard than patterns do. It has these letters more. -/
def laterLetters : Ranges := decode
  "88f 3cc 7f 9af1+1 2 1 1c 614e+19 56b+2 32+1 c64+7 248+2b 50c4+18 2+18 11e+4 1801+7 509+15
    61+72 58cd+1e 1+15 8+1 d03a+5 1762+b 5502+10c9"

def laterNumbers : Ranges := decode
  "11de0+9 520a+2"

end Unicode

def isAlphabetic (c : Char) : Bool :=
  if c.toNat < 128 then c.isAlpha
  else Unicode.covers Unicode.alphabeticRanges c.toNat ||
    Unicode.covers Unicode.laterLetters c.toNat

def isAlphanumeric (c : Char) : Bool :=
  if c.toNat < 128 then c.isAlphanum
  else isAlphabetic c || Unicode.covers Unicode.numberRanges c.toNat ||
    Unicode.covers Unicode.laterNumbers c.toNat

end ClassLint
