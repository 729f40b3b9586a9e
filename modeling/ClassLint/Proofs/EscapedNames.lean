import ClassLint.Json.Reader
import ClassLint.Proofs.CommaLists

/-! Names as texts with escapes. A backslash and up to six hexadecimal digits stand for the code
point they write, and a backslash and any other character for that character. The reader of names
knows escapes of the second sort only; where a text has none of the first, it reads the name that
the text stands for. -/

namespace ClassLint

def isHexDigit (c : Char) : Bool := (Json.hexDigit? c).isSome

def hexNumber (digits : Text) : Nat := (digits.filterMap Json.hexDigit?).foldl (· * 16 + ·) 0

/-- The character with a code point. What is no character stands for the replacement character, and
so does zero. -/
def scalarAt (code : Nat) : Char :=
  if code = 0 || (0xD800 ≤ code && code ≤ 0xDFFF) || 0x10FFFF < code then '\uFFFD'
  else Char.ofNat code

/-- What can end the digits of a code point: nothing, or one blank, for which a carriage return and
a line feed count as one. -/
def digitEnds : List Text := ["", " ", "\t", "\n", "\r", "\x0c", "\r\n"]

/-- The name that a text of name characters and escapes stands for. Digits of a code point are as
many as there are, up to six. -/
inductive StandsFor : Text → Text → Prop where
  | nil : StandsFor [] []
  | character {c : Char} {t name : Text} (character : isNameCharacter c = true)
      (rest : StandsFor t name) : StandsFor (c :: t) (c :: name)
  | escaped {c : Char} {t name : Text} (noDigit : isHexDigit c = false) (noFeed : c ≠ '\n')
      (rest : StandsFor t name) : StandsFor ('\\' :: c :: t) (c :: name)
  | codePoint {digits ending t name : Text} (each : ∀ d ∈ digits, isHexDigit d = true)
      (atLeast : digits ≠ []) (atMost : digits.length ≤ 6) (ends : ending ∈ digitEnds)
      (all : ending = [] → digits.length < 6 → ∀ c ∈ t.head?, isHexDigit c = false)
      (rest : StandsFor t name) :
      StandsFor ('\\' :: (digits ++ (ending ++ t))) (scalarAt (hexNumber digits) :: name)

def hasCodePoint : Text → Bool
  | '\\' :: c :: t => isHexDigit c || hasCodePoint t
  | _ :: t => hasCodePoint t
  | [] => false

/-! ### Digits -/

theorem hexDigit?_bounds {c : Char} {n : Nat} (digit : Json.hexDigit? c = some n) :
    n < 16 ∧ 48 ≤ c.toNat ∧ isNameCharacter c = true := by
  unfold Json.hexDigit? at digit
  simp only [Char.isDigit, ge_iff_le, Bool.and_eq_true, decide_eq_true_eq, Char.le_def,
    UInt32.le_iff_toNat_le] at digit
  change (if 48 ≤ c.toNat ∧ c.toNat ≤ 57 then some (c.toNat - 48)
    else if 97 ≤ c.toNat ∧ c.toNat ≤ 102 then some (c.toNat - 87)
    else if 65 ≤ c.toNat ∧ c.toNat ≤ 70 then some (c.toNat - 55) else none) = some n at digit
  have name (inside : 48 ≤ c.toNat ∧ c.toNat ≤ 57 ∨ 65 ≤ c.toNat ∧ c.toNat ≤ 90 ∨
      97 ≤ c.toNat ∧ c.toNat ≤ 122) : isNameCharacter c = true := by
    delta isNameCharacter isNameStart Char.isAlpha Char.isUpper Char.isLower Char.isDigit
    simp only [ge_iff_le, Bool.or_eq_true, Bool.and_eq_true, decide_eq_true_eq,
      UInt32.le_iff_toNat_le]
    change (((((65 ≤ c.toNat ∧ c.toNat ≤ 90) ∨ (97 ≤ c.toNat ∧ c.toNat ≤ 122)) ∨ c = '_') ∨
      128 ≤ c.toNat) ∨ (48 ≤ c.toNat ∧ c.toNat ≤ 57)) ∨ c = '-'
    omega
  split at digit
  · cases digit
    exact ⟨by omega, by omega, name (by omega)⟩
  split at digit
  · cases digit
    exact ⟨by omega, by omega, name (by omega)⟩
  split at digit
  · cases digit
    exact ⟨by omega, by omega, name (by omega)⟩
  · cases digit

theorem isNameCharacter_of_isHexDigit {c : Char} (digit : isHexDigit c = true) :
    isNameCharacter c = true := by
  obtain ⟨n, found⟩ := Option.isSome_iff_exists.mp digit
  exact (hexDigit?_bounds found).2.2

theorem scalarAt_hexNumber_ne {c : Char} (digit : isHexDigit c = true) :
    scalarAt (hexNumber [c]) ≠ c := by
  obtain ⟨n, found⟩ := Option.isSome_iff_exists.mp digit
  obtain ⟨small, large, -⟩ := hexDigit?_bounds found
  have number : hexNumber [c] = n := by simp [hexNumber, found]
  rw [number, scalarAt]
  split
  · rintro rfl
    exact absurd digit (by decide)
  · rintro rfl
    have valid : n.isValidChar := .inl (by omega)
    have same : (Char.ofNat n).toNat = n := by
      rw [Char.ofNat, dif_pos valid]
      rfl
    omega

/-! ### What the reader makes of it -/

theorem takeName_digits {digits : Text} (each : ∀ d ∈ digits, isHexDigit d = true) (t : Text) :
    takeName (digits ++ t) = (takeName t).map (Name.push digits digits) := by
  induction digits with
  | nil =>
      rw [List.nil_append]
      cases takeName t <;> rfl
  | cons d digits ih =>
      obtain ⟨first, others⟩ := List.forall_mem_cons.mp each
      rw [List.cons_append, takeName_of_character (isNameCharacter_of_isHexDigit first), ih others]
      cases takeName t <;> rfl

/-- Of a code point the backslash makes the first digit part of the name, as the other digits are
in any case. -/
theorem takeName_codePoint {d : Char} {digits : Text} (each : ∀ d ∈ digits, isHexDigit d = true)
    (t : Text) :
    takeName ('\\' :: (d :: digits ++ t)) =
      (takeName t).map (Name.push (d :: digits) ('\\' :: d :: digits)) := by
  rw [List.cons_append, takeName_escape, takeName_digits each]
  cases takeName t <;> rfl

theorem takeName_ending {ending : Text} (ends : ending ∈ digitEnds) (written : ending ≠ [])
    (t : Text) : takeName (ending ++ t) = .ok ⟨[], [], ending ++ t⟩ := by
  apply takeName_of_stop
  simp only [digitEnds, List.mem_cons, List.not_mem_nil, or_false] at ends
  rcases ends with rfl | rfl | rfl | rfl | rfl | rfl | rfl
  · exact absurd rfl written
  all_goals
    simp [startsName_cons_iff, isNameCharacter, isNameStart]

/-- The reader takes digits of code points for characters of the name. If it reads the whole text,
it reads no fewer characters than the name has, and not the name where a code point is written. -/
theorem exists_takeName_of_standsFor {t name : Text} (stands : StandsFor t name) :
    ∃ read, takeName t = .ok read ∧
      (hasCodePoint t = false → read.value = name ∧ read.rest = []) ∧
      (read.rest = [] → name.length ≤ read.value.length ∧
        (hasCodePoint t = true → read.value ≠ name)) := by
  induction stands with
  | nil => exact ⟨⟨[], [], []⟩, by rw [takeName], by simp, by simp [hasCodePoint]⟩
  | @character c t name character rest ih =>
      obtain ⟨read, found, plain, whole⟩ := ih
      have unescaped : c ≠ '\\' := by
        rintro rfl
        exact absurd character (by decide)
      have later : hasCodePoint (c :: t) = hasCodePoint t := by
        rw [hasCodePoint]
        rintro d more rfl
        exact absurd rfl unescaped
      refine ⟨read.push [c] [c], by rw [takeName_of_character character, found]; rfl, ?_, ?_⟩
      · rw [later]
        intro free
        exact ⟨congrArg (c :: ·) (plain free).1, (plain free).2⟩
      · rw [later]
        intro ended
        obtain ⟨atLeast, other⟩ := whole ended
        exact ⟨Nat.succ_le_succ atLeast, fun written same => other written (List.cons.inj same).2⟩
  | @escaped c t name noDigit noFeed rest ih =>
      obtain ⟨read, found, plain, whole⟩ := ih
      have later : hasCodePoint ('\\' :: c :: t) = hasCodePoint t := by
        rw [hasCodePoint, noDigit, Bool.false_or]
      refine ⟨read.push [c] ['\\', c], by rw [takeName_escape, found]; rfl, ?_, ?_⟩
      · rw [later]
        intro free
        exact ⟨congrArg (c :: ·) (plain free).1, (plain free).2⟩
      · rw [later]
        intro ended
        obtain ⟨atLeast, other⟩ := whole ended
        exact ⟨Nat.succ_le_succ atLeast, fun written same => other written (List.cons.inj same).2⟩
  | @codePoint digits ending t name each atLeast atMost ends all rest ih =>
      obtain ⟨read, found, -, whole⟩ := ih
      obtain ⟨d, digits, rfl⟩ := List.exists_cons_of_ne_nil atLeast
      obtain ⟨first, others⟩ := List.forall_mem_cons.mp each
      have written : hasCodePoint ('\\' :: (d :: digits ++ (ending ++ t))) = true := by
        rw [List.cons_append, hasCodePoint, first, Bool.true_or]
      have taken := takeName_codePoint (d := d) others (ending ++ t)
      rw [written]
      by_cases blank : ending = []
      · subst blank
        rw [List.nil_append, found] at taken
        refine ⟨_, taken, by simp, ?_⟩
        intro ended
        obtain ⟨longer, -⟩ := whole ended
        have length : (d :: digits ++ read.value).length =
            digits.length + read.value.length + 1 := by simp
        have value : (read.push (d :: digits) ('\\' :: d :: digits)).value =
            d :: digits ++ read.value := rfl
        rw [value, length, List.length_cons]
        refine ⟨by omega, fun _ same => ?_⟩
        -- as long as the name only if it is one digit, which does not stand for itself
        rw [same, List.length_cons] at length
        obtain rfl : digits = [] := List.eq_nil_of_length_eq_zero (by omega)
        exact scalarAt_hexNumber_ne first (List.cons.inj same).1.symm
      · rw [takeName_ending ends blank] at taken
        refine ⟨_, taken, by simp, ?_⟩
        intro ended
        exact absurd (List.append_eq_nil_iff.mp ended).1 blank

theorem parseList_class_iff {t name : Text} (named : name ≠ []) :
    Selector.parseList ('.' :: t) = .ok [⟨[⟨.className, name, '.' :: t⟩]⟩] ↔
      takeName t = .ok ⟨name, t, []⟩ := by
  have piece : readPiece '.' t = readMarked .className '.' t := rfl
  constructor
  · intro parsed
    obtain ⟨groups, pieces, each⟩ := parseList_eq_ok_iff.mp parsed
    obtain ⟨group, none, joined, ended, rfl⟩ := List.forall₂_cons_right_iff.mp each
    obtain rfl := List.forall₂_nil_right_iff.mp ended
    obtain ⟨_, _, same, whole⟩ := exists_readsTo pieces
    cases same
    have reads : ReadsTo ('.' :: t) group [] := by
      rcases whole with ⟨whole, -⟩ | ⟨rest, -, more⟩
      · exact whole
      · obtain ⟨_, _, none, -⟩ := exists_readsTo more
        cases none
    obtain ⟨tokens, -⟩ := ofPieces_eq_ok_iff.mp joined
    cases reads with
    | piece inside read more =>
        rw [piece, readMarked] at read
        split at read
        · cases read
        · rename_i found taken
          split at read
          · cases read
          · cases read
            have kept := mem_of_joinPieces tokens List.mem_cons_self
            simp only [List.mem_singleton, Token.mk.injEq, List.cons.injEq, true_and] at kept
            have source := takeName_append taken
            obtain ⟨value, raw⟩ := kept
            rw [raw] at source
            have rest : found.rest = [] := List.append_right_eq_self.mp source
            rw [taken, ← value, ← rest]
            congr 1
            rw [← raw]
  · intro taken
    have read : readPiece '.' t = .ok (.token ⟨.className, name, '.' :: t⟩, []) := by
      rw [piece, readMarked, taken]
      simp [named]
    have pieces := readPieces_of_readsTo_nil (.piece (by decide) read (.done []))
    exact parseList_eq_ok_iff.mpr ⟨_, pieces, .cons rfl .nil⟩

/-- A class is read with the name that its text stands for exactly if no code point is written in
it. -/
theorem parseList_class_standsFor (t name : Text) (written : t ≠ []) (stands : StandsFor t name) :
    Selector.parseList ('.' :: t) = .ok [⟨[⟨.className, name, '.' :: t⟩]⟩] ↔
      hasCodePoint t = false := by
  have named : name ≠ [] := by
    rintro rfl
    cases stands
    exact written rfl
  obtain ⟨read, found, plain, whole⟩ := exists_takeName_of_standsFor stands
  rw [parseList_class_iff named]
  constructor
  · intro taken
    rw [found, Except.ok.injEq] at taken
    subst taken
    by_contra coded
    exact (whole rfl).2 (by simpa using coded) rfl
  · intro free
    obtain ⟨value, rest⟩ := plain free
    have source := takeName_append found
    rw [rest, List.append_nil] at source
    rw [found, ← value, ← source, ← rest]

/-- A space, a colon and a brace behind backslashes, and a letter that is no digit. -/
theorem parseList_class_standsFor_marks :
    "g\\ \\:\\\x7d".toList ≠ [] ∧ StandsFor "g\\ \\:\\\x7d" "g :\x7d" ∧
      hasCodePoint "g\\ \\:\\\x7d" = false ∧
      Selector.parseList ".g\\ \\:\\\x7d" =
        .ok [⟨[⟨.className, "g :\x7d", ".g\\ \\:\\\x7d"⟩]⟩] := by
  have written : "g\\ \\:\\\x7d".toList ≠ [] := by decide
  have stands : StandsFor "g\\ \\:\\\x7d" "g :\x7d" :=
    .character (by decide) (.escaped (by decide) (by decide) (.escaped (by decide) (by decide)
      (.escaped (by decide) (by decide) .nil)))
  have plain : hasCodePoint "g\\ \\:\\\x7d" = false := by decide
  exact ⟨written, stands, plain, (parseList_class_standsFor _ _ written stands).mpr plain⟩

/-- A code point is read as its digits, and where a blank ends them, so does the class: what follows
is read as a selector below it, which need not be one. -/
theorem parseList_class_codePoint :
    StandsFor "\\41" "A" ∧
      Selector.parseList ".\\41" = .ok [⟨[⟨.className, "41", ".\\41"⟩]⟩] ∧
      StandsFor "\\31 0" "10" ∧
      Selector.parseList ".\\31 0" = .error ⟨.unexpected '0', ".\\31 0"⟩ := by
  have letter : StandsFor "\\41" "A" :=
    @StandsFor.codePoint "41".toList [] [] [] (List.all_eq_true.mp (by decide)) (by decide)
      (by decide) (by decide) (by simp) .nil
  have digit : StandsFor "\\31 0" "10" :=
    @StandsFor.codePoint "31".toList [' '] ['0'] ['0'] (List.all_eq_true.mp (by decide))
      (by decide) (by decide) (by decide) (by simp) (.character (by decide) .nil)
  exact ⟨letter, by decide +kernel, digit, by decide +kernel⟩

end ClassLint
