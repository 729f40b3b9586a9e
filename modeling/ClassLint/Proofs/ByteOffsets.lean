import ClassLint.Proofs.Letters
import ClassLint.Proofs.Trimming

/-! Offsets into a text that count bytes of its UTF-8 encoding. A text can be cut at such an offset
only between two of its characters, so that cutting out a slice may be refused. -/

namespace ClassLint

theorem byteLength_append (s t : Text) : byteLength (s ++ t) = byteLength s + byteLength t := by
  induction s with
  | nil => rw [List.nil_append, byteLength, Nat.zero_add]
  | cons c s ih => rw [List.cons_append, byteLength, byteLength, ih, Nat.add_assoc]

/-! ### Cutting -/

/-- The text before and after a byte offset. There is none inside a character, and none behind the
end. -/
def splitAtByte? : Nat → Text → Option Taken
  | 0, t => some ([], t)
  | _ + 1, [] => none
  | offset + 1, c :: rest =>
    if c.utf8Size ≤ offset + 1
    then (splitAtByte? (offset + 1 - c.utf8Size) rest).map (Taken.push c) else none

/-- The text between two byte offsets, where the text can be cut at both. -/
def slice? (t : Text) (start stop : Nat) : Option Text := do
  let before ← splitAtByte? stop t
  let taken ← splitAtByte? start before.1
  return taken.2

theorem splitAtByte?_append (before after : Text) :
    splitAtByte? (byteLength before) (before ++ after) = some (before, after) := by
  induction before with
  | nil => rw [byteLength, splitAtByte?, List.nil_append]
  | cons c before ih =>
      obtain ⟨offset, same⟩ : ∃ offset, byteLength (c :: before) = offset + 1 :=
        Nat.exists_eq_add_one.mpr (Nat.add_pos_left c.utf8Size_pos _)
      have left : offset + 1 - c.utf8Size = byteLength before := by
        rw [← same, byteLength, Nat.add_sub_cancel_left]
      have fits : c.utf8Size ≤ offset + 1 := by
        rw [← same, byteLength]
        exact Nat.le_add_right _ _
      rw [same, List.cons_append, splitAtByte?, if_pos fits, left, ih]
      rfl

theorem exists_of_splitAtByte? {offset : Nat} {t : Text} {taken : Taken}
    (cut : splitAtByte? offset t = some taken) :
    taken.1 ++ taken.2 = t ∧ byteLength taken.1 = offset := by
  fun_induction splitAtByte? offset t generalizing taken
  case case1 =>
    cases cut
    exact ⟨rfl, rfl⟩
  case case2 => cases cut
  case case3 offset c rest fits ih =>
    obtain ⟨inner, tail, rfl⟩ := Option.map_eq_some_iff.mp cut
    obtain ⟨whole, counted⟩ := ih tail
    refine ⟨congrArg (c :: ·) whole, ?_⟩
    rw [Taken.push, byteLength, counted, Nat.add_sub_cancel' fits]
  case case4 => cases cut

theorem slice?_eq_some_iff {t middle : Text} {start stop : Nat} :
    slice? t start stop = some middle ↔
      ∃ before after, before ++ (middle ++ after) = t ∧ byteLength before = start ∧
        byteLength (before ++ middle) = stop := by
  constructor
  · intro cut
    obtain ⟨⟨first, after⟩, outer, cut⟩ := Option.bind_eq_some_iff.mp cut
    obtain ⟨⟨before, rest⟩, inner, same⟩ := Option.bind_eq_some_iff.mp cut
    cases same
    obtain ⟨rfl, rfl⟩ := exists_of_splitAtByte? outer
    obtain ⟨rfl, rfl⟩ := exists_of_splitAtByte? inner
    exact ⟨before, after, (List.append_assoc _ _ _).symm, rfl, rfl⟩
  · rintro ⟨before, after, rfl, rfl, rfl⟩
    rw [slice?, ← List.append_assoc, splitAtByte?_append]
    exact congrArg (Option.bind · fun taken => some taken.2) (splitAtByte?_append before middle)

/-- Marks that overlap leave nothing between them, and a wide character has no inside. -/
example : slice? "/*/" 2 1 = none ∧ slice? "é" 1 2 = none ∧ slice? "é" 0 3 = none := by decide

theorem slice?_suffix (before t : Text) :
    slice? (before ++ t) (byteLength before) (byteLength (before ++ t)) = some t :=
  slice?_eq_some_iff.mpr ⟨before, [], by rw [List.append_nil], rfl, rfl⟩

theorem slice?_prefix (t after : Text) : slice? (t ++ after) 0 (byteLength t) = some t :=
  slice?_eq_some_iff.mpr ⟨[], after, rfl, rfl, rfl⟩

theorem slice?_between (before t after : Text) :
    slice? (before ++ (t ++ after)) (byteLength before)
      (byteLength (before ++ (t ++ after)) - byteLength after) = some t := by
  refine slice?_eq_some_iff.mpr ⟨before, after, rfl, rfl, ?_⟩
  rw [← List.append_assoc, byteLength_append (before ++ t), Nat.add_sub_cancel]

/-! ### Lower case -/

section LowerCase

variable (c : Char) (t : Text)

theorem toNat_toLower : c.toLower.toNat = c.toNat ∨
    65 ≤ c.toNat ∧ c.toNat ≤ 90 ∧ c.toLower.toNat = c.toNat + 32 := by
  delta Char.toLower
  split
  · rename_i upper
    simp only [Char.reduceVal, ge_iff_le, UInt32.le_iff_toNat_le, UInt32.reduceToNat,
      Char.toNat_val] at upper
    refine .inr ⟨upper.1, upper.2, ?_⟩
    simp only [Char.toNat, UInt32.toNat_add, Char.reduceVal, UInt32.reduceSub,
      UInt32.reduceToNat] at upper ⊢
    omega
  · exact .inl rfl

theorem isBlank_toLower : isBlank c.toLower = isBlank c := by
  rw [Bool.eq_iff_iff]
  simp only [isBlank, Bool.or_eq_true, Bool.and_eq_true, decide_eq_true_eq, beq_iff_eq]
  have letter := toNat_toLower c
  omega

theorem utf8Size_toLower : c.toLower.utf8Size = c.utf8Size := by
  have letter := toNat_toLower c
  simp only [Char.utf8Size, UInt32.le_iff_toNat_le, Char.toNat_val, UInt32.toNat_ofNatLT]
  grind

theorem eq_of_toLower {c d : Char} (same : c.toLower = d) (before : d.toNat < 97) : c = d := by
  have letter := toNat_toLower c
  rw [same] at letter
  exact Char.toNat_inj.mp (by omega)

theorem byteLength_toLower : byteLength (t.map Char.toLower) = byteLength t := by
  induction t with
  | nil => rfl
  | cons c t ih => rw [List.map_cons, byteLength, byteLength, utf8Size_toLower, ih]

theorem trimEnd_toLower : trimEnd (t.map Char.toLower) = (trimEnd t).map Char.toLower := by
  have blanks : isBlank ∘ Char.toLower = isBlank := funext isBlank_toLower
  rw [trimEnd, trimEnd, ← List.map_reverse, List.dropWhile_map, blanks, List.map_reverse]

end LowerCase

end ClassLint
