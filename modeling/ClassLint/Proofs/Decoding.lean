import ClassLint.Text.Raw
import Mathlib.Data.Char
import Mathlib.Tactic.SplitIfs

/-! Decoding. The decoder reads the encoding of a text as that text, and reads nothing else as a
text: bytes that encode none break off somewhere. -/

namespace ClassLint

namespace Decoder

/-! ### Single steps -/

section Steps

variable {n value more least greatest : Nat} {byte : UInt8} (rest : List UInt8)

theorem start_one (small : n < 0x80) : start n = ([some (Char.ofNat n)], .between) :=
  if_pos small

theorem start_two (low : 2 ≤ n) (high : n < 0x20) :
    start (n + 0xC0) = ([], .inside n 0 0x80 0xBF) := by
  rw [start, if_neg (by omega), if_neg (by omega), if_pos (by omega)]
  congr 2
  omega

theorem start_three (high : n < 0x10) : start (n + 0xE0) =
    ([], .inside n 1 (if n = 0 then 0xA0 else 0x80) (if n = 13 then 0x9F else 0xBF)) := by
  rw [start, if_neg (by omega), if_neg (by omega), if_neg (by omega), if_pos (by omega)]
  congr 2 <;> grind

theorem start_four (high : n < 5) : start (n + 0xF0) =
    ([], .inside n 2 (if n = 0 then 0x90 else 0x80) (if n = 4 then 0x8F else 0xBF)) := by
  rw [start, if_neg (by omega), if_neg (by omega), if_neg (by omega), if_neg (by omega),
    if_pos (by omega)]
  congr 2 <;> grind

theorem run_cons (decoder : Decoder) (byte : UInt8) : decoder.run (byte :: rest) =
    (decoder.step byte.toNat).1 ++ (decoder.step byte.toNat).2.run rest := by
  cases decoder <;> rfl

theorem run_between (byte : UInt8) :
    run .between (byte :: rest) = (start byte.toNat).1 ++ run (start byte.toNat).2 rest :=
  run_cons rest .between byte

theorem run_inside_last (low : least ≤ byte.toNat) (high : byte.toNat ≤ greatest) :
    run (.inside value 0 least greatest) (byte :: rest) =
      some (Char.ofNat (value * 0x40 + byte.toNat % 0x40)) :: run .between rest := by
  rw [run_cons, step, if_pos ⟨low, high⟩]
  rfl

theorem run_inside_succ (low : least ≤ byte.toNat) (high : byte.toNat ≤ greatest) :
    run (.inside value (more + 1) least greatest) (byte :: rest) =
      run (.inside (value * 0x40 + byte.toNat % 0x40) more 0x80 0xBF) rest := by
  rw [run_cons, step, if_pos ⟨low, high⟩]
  rfl

theorem run_inside_cases (value more least greatest : Nat) (bytes : List UInt8) :
    (∃ later, run (.inside value more least greatest) bytes = none :: later) ∨
      ∃ byte rest, bytes = byte :: rest ∧ least ≤ byte.toNat ∧ byte.toNat ≤ greatest := by
  cases bytes with
  | nil => exact .inl ⟨[], rfl⟩
  | cons byte rest =>
      by_cases goesOn : least ≤ byte.toNat ∧ byte.toNat ≤ greatest
      · exact .inr ⟨byte, rest, rfl, goesOn⟩
      · left
        have broken : (inside value more least greatest).step byte.toNat =
            (none :: (start byte.toNat).1, (start byte.toNat).2) := by
          cases more <;> exact if_neg goesOn
        rw [run_cons, broken]
        exact ⟨_, rfl⟩

end Steps

/-! ### Characters -/

theorem toNat_ofNat_of_lt {n : Nat} (small : n < 0x100) : (UInt8.ofNat n).toNat = n := by
  rw [UInt8.toNat_ofNat']
  exact Nat.mod_eq_of_lt small

theorem run_utf8EncodeChar (c : Char) (rest : List UInt8) :
    run .between (String.utf8EncodeChar c ++ rest) = some c :: run .between rest := by
  have valid : c.val.toNat < 0xD800 ∨ 0xDFFF < c.val.toNat ∧ c.val.toNat < 0x110000 := c.valid
  have whole : Char.ofNat c.val.toNat = c := Char.ofNat_toNat c
  have tail (m : Nat) : (UInt8.ofNat (m % 64 + 128)).toNat = m % 64 + 128 :=
    toNat_ofNat_of_lt (by omega)
  rw [String.utf8EncodeChar]
  generalize c.val.toNat = n at valid whole ⊢
  subst whole
  split_ifs with one two three
  · rw [List.singleton_append, run_between, toNat_ofNat_of_lt (by omega), start_one (by omega)]
    rfl
  · have value : n / 64 % 32 * 0x40 + (n % 64 + 128) % 0x40 = n := by omega
    rw [List.cons_append, List.singleton_append, run_between, toNat_ofNat_of_lt (by omega),
      start_two (by omega) (by omega), List.nil_append,
      run_inside_last _ (by rw [tail]; omega) (by rw [tail]; omega), tail, value]
  · have value : (n / 4096 % 16 * 0x40 + (n / 64 % 64 + 128) % 0x40) * 0x40 +
        (n % 64 + 128) % 0x40 = n := by omega
    rw [List.cons_append, List.cons_append, List.singleton_append, run_between,
      toNat_ofNat_of_lt (by omega), start_three (by omega), List.nil_append,
      run_inside_succ _ (by rw [tail]; grind) (by rw [tail]; grind),
      run_inside_last _ (by rw [tail]; omega) (by rw [tail]; omega), tail, tail, value]
  · have value : ((n / 262144 % 8 * 0x40 + (n / 4096 % 64 + 128) % 0x40) * 0x40 +
        (n / 64 % 64 + 128) % 0x40) * 0x40 + (n % 64 + 128) % 0x40 = n := by omega
    rw [List.cons_append, List.cons_append, List.cons_append, List.singleton_append, run_between,
      toNat_ofNat_of_lt (by omega), start_four (by omega), List.nil_append,
      run_inside_succ _ (by rw [tail]; grind) (by rw [tail]; grind),
      run_inside_succ _ (by rw [tail]; omega) (by rw [tail]; omega),
      run_inside_last _ (by rw [tail]; omega) (by rw [tail]; omega), tail, tail, tail, value]

theorem val_ofNat {n : Nat} (valid : n.isValidChar) : (Char.ofNat n).val.toNat = n := by
  rw [Char.ofNat, dif_pos valid]
  rfl

/-! ### Bytes that encode a character -/

section Encodings

variable {n : Nat} {first second third fourth : UInt8}

theorem ofNat_eq (same : n = first.toNat) : UInt8.ofNat n = first := by
  rw [same, UInt8.ofNat_toNat]

theorem utf8EncodeChar_one (small : first.toNat < 0x80) :
    String.utf8EncodeChar (Char.ofNat first.toNat) = [first] := by
  rw [String.utf8EncodeChar, val_ofNat (.inl (by omega)), if_pos (by omega), UInt8.ofNat_toNat]

theorem utf8EncodeChar_two (start : first.toNat = n + 0xC0) (least : 2 ≤ n) (most : n < 0x20)
    (low : 0x80 ≤ second.toNat) (high : second.toNat ≤ 0xBF) :
    String.utf8EncodeChar (Char.ofNat (n * 0x40 + second.toNat % 0x40)) = [first, second] := by
  rw [String.utf8EncodeChar, val_ofNat (.inl (by omega)), if_neg (by omega), if_pos (by omega)]
  simp only [List.cons.injEq, and_true]
  exact ⟨ofNat_eq (by omega), ofNat_eq (by omega)⟩

theorem utf8EncodeChar_three (start : first.toNat = n + 0xE0) (most : n < 0x10)
    (low : (if n = 0 then 0xA0 else 0x80) ≤ second.toNat)
    (high : second.toNat ≤ if n = 13 then 0x9F else 0xBF)
    (lowThird : 0x80 ≤ third.toNat) (highThird : third.toNat ≤ 0xBF) :
    String.utf8EncodeChar (Char.ofNat ((n * 0x40 + second.toNat % 0x40) * 0x40 +
      third.toNat % 0x40)) = [first, second, third] := by
  obtain ⟨above, within, shortest⟩ : 0x80 ≤ second.toNat ∧ second.toNat ≤ 0xBF ∧
      0x20 ≤ n * 0x40 + second.toNat % 0x40 := by grind
  have valid : ((n * 0x40 + second.toNat % 0x40) * 0x40 + third.toNat % 0x40).isValidChar := by
    rw [Nat.isValidChar]
    grind
  rw [String.utf8EncodeChar, val_ofNat valid, if_neg (by omega), if_neg (by omega),
    if_pos (by omega)]
  simp only [List.cons.injEq, and_true]
  exact ⟨ofNat_eq (by omega), ofNat_eq (by omega), ofNat_eq (by omega)⟩

theorem utf8EncodeChar_four (start : first.toNat = n + 0xF0) (most : n < 5)
    (low : (if n = 0 then 0x90 else 0x80) ≤ second.toNat)
    (high : second.toNat ≤ if n = 4 then 0x8F else 0xBF)
    (lowThird : 0x80 ≤ third.toNat) (highThird : third.toNat ≤ 0xBF)
    (lowFourth : 0x80 ≤ fourth.toNat) (highFourth : fourth.toNat ≤ 0xBF) :
    String.utf8EncodeChar (Char.ofNat (((n * 0x40 + second.toNat % 0x40) * 0x40 +
      third.toNat % 0x40) * 0x40 + fourth.toNat % 0x40)) = [first, second, third, fourth] := by
  obtain ⟨above, within, shortest, last⟩ : 0x80 ≤ second.toNat ∧ second.toNat ≤ 0xBF ∧
      0x10 ≤ n * 0x40 + second.toNat % 0x40 ∧ n * 0x40 + second.toNat % 0x40 < 0x110 := by grind
  rw [String.utf8EncodeChar, val_ofNat (.inr (by omega)), if_neg (by omega), if_neg (by omega),
    if_neg (by omega)]
  simp only [List.cons.injEq, and_true]
  exact ⟨ofNat_eq (by omega), ofNat_eq (by omega), ofNat_eq (by omega), ofNat_eq (by omega)⟩

/-- What comes next is a whole character, or breaks off. -/
theorem run_between_cases (first : UInt8) (rest : List UInt8) :
    (∃ c left, first :: rest = String.utf8EncodeChar c ++ left) ∨
      ∃ later, run .between (first :: rest) = none :: later := by
  -- The first byte tells how many come after it, and each of these may break off.
  rcases Nat.lt_or_ge first.toNat 0x80 with one | notOne
  · exact .inl ⟨_, rest, by rw [utf8EncodeChar_one one]; rfl⟩
  rcases Nat.lt_or_ge first.toNat 0xC2 with neither | notNeither
  · right
    rw [run_between, start, if_neg (by omega), if_pos neither]
    exact ⟨_, rfl⟩
  rcases Nat.lt_or_ge first.toNat 0xE0 with two | notTwo
  · obtain ⟨n, begins⟩ : ∃ n, first.toNat = n + 0xC0 := ⟨_, (Nat.sub_add_cancel (by omega)).symm⟩
    rw [run_between, begins, start_two (by omega) (by omega), List.nil_append]
    rcases run_inside_cases _ _ _ _ rest with broken | ⟨second, left, rfl, low, high⟩
    · exact .inr broken
    · have encoded := utf8EncodeChar_two begins (by omega) (by omega) low high
      exact .inl ⟨_, left, by rw [encoded]; rfl⟩
  rcases Nat.lt_or_ge first.toNat 0xF0 with three | notThree
  · obtain ⟨n, begins⟩ : ∃ n, first.toNat = n + 0xE0 := ⟨_, (Nat.sub_add_cancel (by omega)).symm⟩
    rw [run_between, begins, start_three (by omega), List.nil_append]
    rcases run_inside_cases _ _ _ _ rest with broken | ⟨second, rest, rfl, low, high⟩
    · exact .inr broken
    rw [run_inside_succ _ low high]
    rcases run_inside_cases _ _ _ _ rest with broken | ⟨third, left, rfl, lowThird, highThird⟩
    · exact .inr broken
    · have encoded := utf8EncodeChar_three begins (by omega) low high lowThird highThird
      exact .inl ⟨_, left, by rw [encoded]; rfl⟩
  rcases Nat.lt_or_ge first.toNat 0xF5 with four | beyond
  · obtain ⟨n, begins⟩ : ∃ n, first.toNat = n + 0xF0 := ⟨_, (Nat.sub_add_cancel (by omega)).symm⟩
    rw [run_between, begins, start_four (by omega), List.nil_append]
    rcases run_inside_cases _ _ _ _ rest with broken | ⟨second, rest, rfl, low, high⟩
    · exact .inr broken
    rw [run_inside_succ _ low high]
    rcases run_inside_cases _ _ _ _ rest with broken | ⟨third, rest, rfl, lowThird, highThird⟩
    · exact .inr broken
    rw [run_inside_succ _ lowThird highThird]
    rcases run_inside_cases _ _ _ _ rest with broken | ⟨fourth, left, rfl, lowFourth, highFourth⟩
    · exact .inr broken
    · have encoded := utf8EncodeChar_four begins (by omega) low high lowThird highThird lowFourth
        highFourth
      exact .inl ⟨_, left, by rw [encoded]; rfl⟩
  · right
    rw [run_between, start, if_neg (by omega), if_neg (by omega), if_neg (by omega),
      if_neg (by omega), if_neg (by omega)]
    exact ⟨_, rfl⟩

end Encodings

theorem eq_flatMap_of_run {bytes : List UInt8} {t : Text}
    (given : run .between bytes = t.map some) : bytes = t.flatMap String.utf8EncodeChar := by
  induction t generalizing bytes with
  | nil =>
      cases bytes with
      | nil => rfl
      | cons byte rest =>
          rcases run_between_cases byte rest with ⟨c, left, same⟩ | ⟨later, broken⟩
          · rw [same, run_utf8EncodeChar] at given
            cases given
          · rw [broken] at given
            cases given
  | cons c t ih =>
      cases bytes with
      | nil => cases given
      | cons byte rest =>
          rcases run_between_cases byte rest with ⟨d, left, same⟩ | ⟨later, broken⟩
          · rw [same, run_utf8EncodeChar, List.map_cons] at given
            obtain ⟨first, others⟩ := List.cons.inj given
            cases first
            rw [same, List.flatMap_cons, ← ih others]
          · rw [broken] at given
            cases given

end Decoder

namespace RawText

theorem decoded_ofText (t : Text) : (ofText t).decoded = t.map some := by
  induction t with
  | nil => rfl
  | cons c t ih => exact (Decoder.run_utf8EncodeChar c _).trans (congrArg _ ih)

theorem display_ofText (t : Text) : (ofText t).display = t := by
  rw [display, decoded_ofText, List.map_map]
  exact List.map_id t

/-- A character that is broken off, each byte of a surrogate, and a byte that no character has. -/
example : RawText.display ⟨[0x61, 0xE2, 0x82, 0x62, 0xED, 0xA0, 0x80, 0xFF]⟩ =
    "a\uFFFDb\uFFFD\uFFFD\uFFFD\uFFFD".toList := by decide

theorem mapM_id_eq_some_iff {items : List (Option Char)} {t : Text} :
    items.mapM id = some t ↔ items = t.map some := by
  induction items generalizing t with
  | nil => cases t <;> simp
  | cons item items ih =>
      cases item with
      | none => cases t <;> simp
      | some c => cases others : items.mapM id <;> cases t <;> simp_all

theorem text?_eq_some_iff {raw : RawText} {t : Text} : raw.text? = some t ↔ raw = ofText t := by
  rw [text?, mapM_id_eq_some_iff]
  constructor
  · intro given
    rw [ofText, ← Decoder.eq_flatMap_of_run given]
  · rintro rfl
    exact decoded_ofText t

theorem text?_eq_none_iff {raw : RawText} : raw.text? = none ↔ ∀ t, raw ≠ ofText t := by
  rw [Option.eq_none_iff_forall_ne_some]
  simp only [ne_eq, text?_eq_some_iff]

end RawText

end ClassLint
