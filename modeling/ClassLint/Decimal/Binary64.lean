import ClassLint.Text.Basic

/-! Numbers of the binary64 format, kept by their bits, and reading one from decimal parts. -/

namespace ClassLint

/-- A binary64 number; two are equal when their bits are. -/
structure Binary64 where
  bits : UInt64
  deriving DecidableEq, Repr

namespace Binary64

def ofFloat (f : Float) : Binary64 := ⟨f.toBits⟩

def powerOfTen (exponent : Nat) : Float := Float.ofScientific 1 false exponent

/-- Scales by a power of ten in steps the format can hold; nothing where the result is too large.
Three steps reach zero from any significand. -/
def scale : Nat → Float → Int → Option Float
  | 0, f, _ => some f
  | steps + 1, f, exponent =>
    if exponent.natAbs ≤ 308 then
      if 0 ≤ exponent then
        let product := f * powerOfTen exponent.natAbs
        if product.isInf then none else some product
      else some (f / powerOfTen exponent.natAbs)
    else if f == 0.0 then some f
    else if 0 ≤ exponent then none
    else scale steps (f / powerOfTen 308) (exponent + 308)

/-- The number `± significand · 10 ^ exponent`, with one rounding for the significand and one for
each step of the scaling. The significand is below `2 ^ 64`. -/
def ofParts? (negative : Bool) (significand : Nat) (exponent : Int) : Option Binary64 :=
  (scale 8 (UInt64.ofNat significand).toFloat exponent).map fun f =>
    ofFloat (if negative then -f else f)

def zero (negative : Bool) : Binary64 := ofFloat (if negative then -0.0 else 0.0)

end Binary64

end ClassLint
