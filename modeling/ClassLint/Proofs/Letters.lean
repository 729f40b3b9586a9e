import ClassLint.Text.Blank
import ClassLint.Unicode.Letter

/-! No blank is a letter or a digit, in any script, nor has it another case. -/

namespace ClassLint

namespace Unicode

/-- A table is read from the list of its characters, so that the kernel need not take it apart as a
sequence of bytes. -/
theorem decode_ofList (t : Text) : decode (String.ofList t) = decodeFrom 0 (words t) := by
  rw [decode, String.toList_ofList]

def wideBlanks : List Nat :=
  [0x85, 0xA0, 0x1680, 0x2000, 0x2001, 0x2002, 0x2003, 0x2004, 0x2005, 0x2006, 0x2007, 0x2008,
    0x2009, 0x200A, 0x2028, 0x2029, 0x202F, 0x205F, 0x3000]

def missesBlanks (ranges : Ranges) : Bool := wideBlanks.all fun n => !covers ranges n

set_option maxRecDepth 100000 in
theorem missesBlanks_alphabeticRanges : missesBlanks alphabeticRanges = true := by
  have tables : Property.alphabetic.categories.map Category.ranges =
      [.lu, .ll, .lt, .lm, .lo, .nl].map Category.ranges := rfl
  rw [alphabeticRanges, Property.ranges, categoryRanges, tables]
  simp only [List.map]
  rw [show Category.ranges .lu = _ from decode_ofList _,
    show Category.ranges .ll = _ from decode_ofList _,
    show Category.ranges .lt = _ from decode_ofList _,
    show Category.ranges .lm = _ from decode_ofList _,
    show Category.ranges .lo = _ from decode_ofList _,
    show Category.ranges .nl = _ from decode_ofList _,
    show decode Property.alphabetic.added = _ from decode_ofList _,
    show decode Property.alphabetic.removed = _ from decode_ofList _]
  decide +kernel

set_option maxRecDepth 100000 in
theorem missesBlanks_laterLetters : missesBlanks laterLetters = true := by
  rw [show laterLetters = _ from decode_ofList _]
  decide +kernel

set_option maxRecDepth 100000 in
theorem missesBlanks_numberRanges : missesBlanks numberRanges = true := by
  have tables : Category.number.map Category.ranges = [.nd, .nl, .no].map Category.ranges := rfl
  rw [numberRanges, categoryRanges, tables]
  simp only [List.map]
  rw [show Category.ranges .nd = _ from decode_ofList _,
    show Category.ranges .nl = _ from decode_ofList _,
    show Category.ranges .no = _ from decode_ofList _]
  decide +kernel

set_option maxRecDepth 100000 in
theorem missesBlanks_laterNumbers : missesBlanks laterNumbers = true := by
  rw [show laterNumbers = _ from decode_ofList _]
  decide +kernel

theorem covers_of_missesBlanks {ranges : Ranges} (misses : missesBlanks ranges = true) {n : Nat}
    (blank : n ∈ wideBlanks) : covers ranges n = false := by
  simpa using List.all_eq_true.mp misses n blank

end Unicode

theorem mem_wideBlanks {c : Char} (blank : isBlank c = true) (wide : ¬c.toNat < 128) :
    c.toNat ∈ Unicode.wideBlanks := by
  simp only [isBlank, Bool.or_eq_true, Bool.and_eq_true, decide_eq_true_eq, beq_iff_eq] at blank
  simp only [Unicode.wideBlanks, List.mem_cons, List.not_mem_nil, or_false]
  omega

theorem isAlphanum_of_isBlank {c : Char} (blank : isBlank c = true) : c.isAlphanum = false := by
  simp only [isBlank, Bool.or_eq_true, Bool.and_eq_true, decide_eq_true_eq, beq_iff_eq] at blank
  delta Char.isAlphanum Char.isAlpha Char.isUpper Char.isLower Char.isDigit
  simp only [Char.reduceVal, ge_iff_le, UInt32.le_iff_toNat_le, UInt32.reduceToNat, Char.toNat_val,
    Bool.decide_and, Bool.or_eq_false_iff, Bool.and_eq_false_imp, decide_eq_true_eq,
    decide_eq_false_iff_not, Nat.not_le]
  omega

theorem toLower_of_isBlank {c : Char} (blank : isBlank c = true) : c.toLower = c := by
  simp only [isBlank, Bool.or_eq_true, Bool.and_eq_true, decide_eq_true_eq, beq_iff_eq] at blank
  delta Char.toLower
  rw [dif_neg]
  simp only [Char.reduceVal, ge_iff_le, UInt32.le_iff_toNat_le, UInt32.reduceToNat, Char.toNat_val]
  omega

theorem isAlphanumeric_of_isBlank {c : Char} (blank : isBlank c = true) :
    isAlphanumeric c = false := by
  by_cases narrow : c.toNat < 128
  · rw [isAlphanumeric, if_pos narrow, isAlphanum_of_isBlank blank]
  · have member := mem_wideBlanks blank narrow
    have misses {ranges : Unicode.Ranges} (checked : Unicode.missesBlanks ranges = true) :
        Unicode.covers ranges c.toNat = false := Unicode.covers_of_missesBlanks checked member
    simp only [isAlphanumeric, isAlphabetic, if_neg narrow,
      misses Unicode.missesBlanks_alphabeticRanges, misses Unicode.missesBlanks_laterLetters,
      misses Unicode.missesBlanks_numberRanges, misses Unicode.missesBlanks_laterNumbers,
      Bool.or_false]

end ClassLint
