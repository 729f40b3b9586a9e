import ClassLint.Proofs.JsonSpelling
import ClassLint.Proofs.Activation
import Mathlib.Data.List.TakeWhile

/-! Reading what a value is spelled as. Whatever blanks there are, the value comes back, as long as
its numbers are integers in range and its brackets do not nest too deep. -/

namespace ClassLint

def JsonNumber.IsInteger : JsonNumber → Prop
  | .natural n => n < 1 <<< 64
  | .negative n => 1 ≤ n ∧ n ≤ 1 <<< 63
  | .binary _ => False

namespace Json

/-! ### Strings -/

theorem hexDigit?_hexCharacter : ∀ n < 16, hexDigit? (hexCharacter n) = some n := by decide

theorem readUnit_control {n : Nat} (control : n < 32) (rest : Text) :
    readUnit ('0' :: '0' :: hexCharacter (n / 16) :: hexCharacter (n % 16) :: rest) =
      .ok (n, rest) := by
  have zero : hexDigit? '0' = some 0 := by decide
  have high := hexDigit?_hexCharacter (n / 16) (by omega)
  have low := hexDigit?_hexCharacter (n % 16) (by omega)
  have parts : ((0 * 16 + 0) * 16 + n / 16) * 16 + n % 16 = n := by omega
  simp only [readUnit, zero, high, low, parts]

theorem readString_escape {c : Char} {t rest : Text} (read : readEscape t = .ok (c, rest)) :
    readString ('\\' :: t) = (readString rest).map (Taken.push c) := by
  conv_lhs => unfold readString
  simp only
  split
  · rename_i failed
    rw [failed] at read
    cases read
  · rename_i found
    rw [found] at read
    cases read
    rfl

theorem readString_plain {c : Char} {rest : Text} (quote : c ≠ '"') (backslash : c ≠ '\\')
    (printable : 32 ≤ c.toNat) :
    readString (c :: rest) = (readString rest).map (Taken.push c) := by
  conv_lhs => unfold readString
  split
  · contradiction
  · simp_all
  · simp_all
  · rename_i same
    cases same
    rw [if_neg (by omega)]

theorem readString_escapeCharacter (c : Char) (rest : Text) :
    readString (escapeCharacter c ++ rest) = (readString rest).map (Taken.push c) := by
  have same (n : Nat) (code : c.toNat = n) : Char.ofNat n = c := by
    rw [← code, Char.ofNat_toNat]
  unfold escapeCharacter
  split
  · exact readString_escape rfl
  · exact readString_escape rfl
  · exact readString_escape rfl
  · exact readString_escape rfl
  · exact readString_escape rfl
  · rename_i quote backslash _ _ _
    split_ifs with backspace feed control
    · rw [← same 8 backspace]
      exact readString_escape rfl
    · rw [← same 12 feed]
      exact readString_escape rfl
    · apply readString_escape
      change readUnicode ('0' :: '0' :: hexCharacter (c.toNat / 16) ::
        hexCharacter (c.toNat % 16) :: rest) = _
      rw [readUnicode, readUnit_control control]
      simp only
      rw [if_neg (by simp; omega), if_neg (by simp; omega), same _ rfl]
    · exact readString_plain quote backslash (by omega)

theorem readString_quoted (t rest : Text) :
    readString (t.flatMap escapeCharacter ++ '"' :: rest) = .ok (t, rest) := by
  induction t with
  | nil => rw [List.flatMap_nil, List.nil_append, readString]
  | cons c t ih =>
      rw [List.flatMap_cons, List.append_assoc, readString_escapeCharacter, ih]
      rfl

/-! ### Numbers -/

def EndsNumber (rest : Text) : Prop :=
  ∀ c ∈ rest.head?, c.isDigit = false ∧ c ≠ '.' ∧ c ≠ 'e' ∧ c ≠ 'E'

theorem isDigit_of_mem_decimal {n : Nat} {c : Char} (member : c ∈ decimal n) :
    c.isDigit = true :=
  Nat.isDigit_of_mem_toDigits (by omega) (by omega) member

theorem digitsValue_decimal (n : Nat) : digitsValue (decimal n) = n := by
  have read : Nat.ofDigitChars 10 (decimal n) 0 = n :=
    Nat.ofDigitChars_toDigits (by omega) (by omega)
  have step : (fun (value : Nat) (c : Char) => 10 * value + (c.toNat - '0'.toNat)) =
      fun value c => value * 10 + digitValue c := by
    funext value c
    rw [Nat.mul_comm]
    rfl
  rw [Nat.ofDigitChars_eq_foldl, step] at read
  exact read

theorem exists_decimal_eq (n : Nat) :
    ∃ d more, decimal n = d :: more ∧ (n ≠ 0 → d ≠ '0') := by
  induction n using Nat.strongRecOn with
  | ind n ih =>
      rw [decimal, Nat.toDigits_eq_if (by omega)]
      split_ifs with small
      · have nonzero : ∀ n < 10, n ≠ 0 → n.digitChar ≠ '0' := by decide
        exact ⟨_, [], rfl, nonzero n small⟩
      · obtain ⟨d, more, whole, leading⟩ := ih (n / 10) (by omega)
        rw [decimal] at whole
        exact ⟨d, more ++ [(n % 10).digitChar], by rw [whole]; rfl, fun _ => leading (by omega)⟩

theorem readDigits_decimal (n : Nat) {rest : Text} (ends : EndsNumber rest) :
    readDigits (decimal n ++ rest) = .ok (decimal n, rest) := by
  obtain ⟨d, more, whole, -⟩ := exists_decimal_eq n
  have stops : rest.takeWhile Char.isDigit = [] ∧ rest.dropWhile Char.isDigit = rest := by
    cases rest with
    | nil => exact ⟨rfl, rfl⟩
    | cons c rest => simp [(ends c rfl).1]
  have digits : ∀ c ∈ decimal n, c.isDigit = true := fun c member => isDigit_of_mem_decimal member
  rw [readDigits, List.takeWhile_append_of_pos digits, List.dropWhile_append_of_pos digits,
    stops.1, stops.2, List.append_nil, whole]

theorem readInteger_decimal (n : Nat) {rest : Text} (ends : EndsNumber rest) :
    readInteger (decimal n ++ rest) = .ok (decimal n, rest) := by
  rw [readInteger, readDigits_decimal n ends]
  split
  · rename_i next more after same
    obtain ⟨d, others, whole, leading⟩ := exists_decimal_eq n
    by_cases zero : n = 0
    · subst zero
      simp [decimal] at same
    · simp only [whole, Except.ok.injEq, Prod.mk.injEq, List.cons.injEq] at same
      exact absurd same.1.1 (leading zero)
  · rfl

theorem readLiteral_decimal (n : Nat) {rest : Text} (ends : EndsNumber rest) :
    readLiteral (decimal n ++ rest) = .ok (⟨decimal n, none, none⟩, rest) := by
  have fraction : readFraction rest = .ok (none, rest) := by
    cases rest with
    | nil => rfl
    | cons c rest =>
        obtain ⟨-, point, -⟩ := ends c rfl
        unfold readFraction
        split
        · simp_all
        · rfl
  have exponent : readExponent rest = .ok (none, rest) := by
    cases rest with
    | nil => rfl
    | cons c rest =>
        obtain ⟨-, -, small, great⟩ := ends c rfl
        simp [readExponent, small, great]
  rw [readLiteral, readInteger_decimal n ends]
  simp only [bind, Except.bind, fraction, exponent]
  rfl

theorem readNumber_natural {n : Nat} (inRange : n < 1 <<< 64) {rest : Text}
    (ends : EndsNumber rest) :
    readNumber false (decimal n ++ rest) = .ok (.number (.natural n), rest) := by
  have number : Literal.number? false ⟨decimal n, none, none⟩ = some (.natural n) := by
    simp only [Literal.number?, digitsValue_decimal, Option.isNone_none, inRange, decide_true,
      Bool.and_self, if_true, Bool.not_false]
  rw [readNumber, readLiteral_decimal n ends]
  simp only [number]

theorem readNumber_negative {n : Nat} (positive : 1 ≤ n) (inRange : n ≤ 1 <<< 63) {rest : Text}
    (ends : EndsNumber rest) :
    readNumber true (decimal n ++ rest) = .ok (.number (.negative n), rest) := by
  have fits : n < 1 <<< 64 := lt_of_le_of_lt inRange (by decide)
  have number : Literal.number? true ⟨decimal n, none, none⟩ = some (.negative n) := by
    simp only [Literal.number?, digitsValue_decimal, Option.isNone_none, fits, positive, inRange,
      decide_true, Bool.and_self, if_true, Bool.not_true, Bool.false_eq_true, if_false]
  rw [readNumber, readLiteral_decimal n ends]
  simp only [number]

/-! ### Values -/

/-- Every number of a value is good, and its brackets nest less than `budget` deep. -/
inductive Within (good : JsonNumber → Prop) : Nat → Json → Prop where
  | null {budget : Nat} : Within good budget .null
  | bool {budget : Nat} (value : Bool) : Within good budget (.bool value)
  | number {budget : Nat} {n : JsonNumber} (fits : good n) : Within good budget (.number n)
  | string {budget : Nat} (t : Text) : Within good budget (.string t)
  | array {budget : Nat} {items : List Json}
      (inside : ∀ item ∈ items, Within good (budget + 1) item) :
      Within good (budget + 2) (.array items)
  | object {budget : Nat} {members : List (Text × Json)}
      (inside : ∀ member ∈ members, Within good (budget + 1) member.2) :
      Within good (budget + 2) (.object members)

theorem skipGaps_before {gap rest : Text} {c : Char} (blank : Gap gap) (visible : isGap c = false) :
    skipGaps (gap ++ c :: rest) = c :: rest := by
  rw [skipGaps, List.dropWhile_append_of_pos blank, List.dropWhile_cons_of_neg (by simp [visible])]

theorem nextItem?_closing {closing : Char} {first : Bool} {gap rest : Text} (blank : Gap gap)
    (visible : isGap closing = false) :
    nextItem? closing first (gap ++ closing :: rest) = .ok none := by
  simp [nextItem?, skipGaps_before blank visible]

theorem nextItem?_separates {closing c : Char} {first : Bool} {separator : Text}
    (separates : Separates first separator) (comma : closing ≠ ',') (visible : isGap c = false)
    (other : c ≠ closing) (rest : Text) :
    nextItem? closing first (separator ++ c :: rest) = .ok (some (c :: rest)) := by
  cases separates with
  | first blank => simp [nextItem?, skipGaps_before blank visible, other]
  | later blank after =>
      rw [List.append_assoc, List.cons_append, nextItem?,
        skipGaps_before blank (by decide : isGap ',' = false)]
      simp [comma.symm, skipGaps_before after visible, other]

theorem endsNumber_of_gap {gap rest : Text} (blank : Gap gap) (ends : EndsNumber rest) :
    EndsNumber (gap ++ rest) := by
  cases gap with
  | nil => exact ends
  | cons d gap =>
      rintro e ⟨⟩
      have code := blank d List.mem_cons_self
      simp only [isGap, Bool.or_eq_true, decide_eq_true_eq] at code
      rcases code with ((rfl | rfl) | rfl) | rfl <;> decide

theorem endsNumber_cons {c : Char} (rest : Text) (other : c.isDigit = false ∧ c ≠ '.' ∧ c ≠ 'e' ∧
    c ≠ 'E') : EndsNumber (c :: rest) := by
  rintro e ⟨⟩
  exact other

theorem SpelledItems.endsNumber {items : List Json} {t : Text}
    (inside : SpelledItems false items t) (rest : Text) : EndsNumber (t ++ ']' :: rest) := by
  cases inside with
  | nil blank => exact endsNumber_of_gap blank (endsNumber_cons _ (by decide))
  | cons separates spelled others =>
      cases separates with
      | later blank after =>
          simp only [List.append_assoc, List.cons_append]
          exact endsNumber_of_gap blank (endsNumber_cons _ (by decide))

theorem SpelledMembers.endsNumber {members : List (Text × Json)} {t : Text}
    (inside : SpelledMembers false members t) (rest : Text) : EndsNumber (t ++ '}' :: rest) := by
  cases inside with
  | nil blank => exact endsNumber_of_gap blank (endsNumber_cons _ (by decide))
  | cons separates before after spelled others =>
      cases separates with
      | later blank after =>
          simp only [List.append_assoc, List.cons_append]
          exact endsNumber_of_gap blank (endsNumber_cons _ (by decide))

theorem ne_of_isDigit {d c : Char} (digit : d.isDigit = true) (other : c.isDigit = false) :
    d ≠ c := by
  rintro rfl
  rw [digit] at other
  cases other

theorem isGap_of_isDigit {d : Char} (digit : d.isDigit = true) : isGap d = false := by
  have tab : d ≠ '\t' := ne_of_isDigit digit (by decide)
  have space : d ≠ ' ' := ne_of_isDigit digit (by decide)
  have feed : d ≠ '\n' := ne_of_isDigit digit (by decide)
  have carriage : d ≠ '\r' := ne_of_isDigit digit (by decide)
  simp [isGap, tab, space, feed, carriage]

theorem exists_of_spelled {budget : Nat} {value : Json} {s : Text}
    (within : Within JsonNumber.IsInteger budget value) (spelled : Spelled value s) :
    ∃ c t, s = c :: t ∧ isGap c = false ∧ c ≠ ']' := by
  cases within with
  | null =>
      cases spelled
      exact ⟨'n', "ull", rfl, by decide⟩
  | bool value =>
      cases spelled
      cases value
      · exact ⟨'f', "alse", rfl, by decide⟩
      · exact ⟨'t', "rue", rfl, by decide⟩
  | @number _ n fits =>
      cases spelled
      cases n with
      | natural n =>
          obtain ⟨d, more, whole, -⟩ := exists_decimal_eq n
          have digit : d.isDigit = true := isDigit_of_mem_decimal (by rw [whole]; simp)
          exact ⟨d, more, whole, isGap_of_isDigit digit, ne_of_isDigit digit (by decide)⟩
      | negative n => exact ⟨'-', decimal n, rfl, by decide⟩
      | binary x => cases fits
  | string t =>
      cases spelled
      exact ⟨'"', _, rfl, by decide⟩
  | array inside =>
      cases spelled
      exact ⟨'[', _, rfl, by decide⟩
  | object inside =>
      cases spelled
      exact ⟨'{', _, rfl, by decide⟩

/-- A text of a value is read as that value, whatever follows it. -/
def Reads (budget : Nat) (value : Json) : Prop :=
  ∀ (fuel : Nat) {gap s rest : Text}, Gap gap → Spelled value s → EndsNumber rest →
    2 * s.length ≤ fuel → readValue fuel budget (gap ++ (s ++ rest)) = .ok (value, rest)

theorem readItems_spelled {budget : Nat} {items : List Json}
    (within : ∀ item ∈ items, Within JsonNumber.IsInteger budget item)
    (reads : ∀ item ∈ items, Reads budget item) {first : Bool} (fuel : Nat) {t : Text}
    (inside : SpelledItems first items t) (enough : 2 * t.length < fuel) (rest : Text) :
    readItems fuel budget first (t ++ ']' :: rest) = .ok (items, rest) := by
  induction items generalizing first fuel t with
  | nil =>
      obtain ⟨fuel, rfl⟩ : ∃ n, fuel = n + 1 := ⟨fuel - 1, by omega⟩
      cases inside with
      | nil blank =>
          simp [readItems, nextItem?_closing blank, skipGaps_before blank, isGap, bind,
            Except.bind, pure, Except.pure]
  | cons item items ih =>
      obtain ⟨fuel, rfl⟩ : ∃ n, fuel = n + 1 := ⟨fuel - 1, by omega⟩
      cases inside with
      | @cons _ separator s t _ _ separates spelled others =>
          obtain ⟨here, later⟩ := List.forall_mem_cons.mp within
          obtain ⟨readsHere, readsLater⟩ := List.forall_mem_cons.mp reads
          obtain ⟨c, tail, rfl, visible, other⟩ := exists_of_spelled here spelled
          have next := nextItem?_separates separates (by decide) visible other
            (tail ++ (t ++ ']' :: rest))
          -- An item has a character at least, which pays for its own call and for that behind it.
          simp only [List.length_append, List.length_cons] at enough
          have value := readsHere fuel gap_nil spelled (others.endsNumber rest)
            (by simp only [List.length_cons]; omega)
          have more := ih later readsLater fuel others (by omega)
          simp only [List.nil_append, List.cons_append] at value
          simp [readItems, next, value, more, bind, Except.bind, pure, Except.pure]

theorem nextItem?_key {first : Bool} {separator : Text} (separates : Separates first separator)
    (key rest : Text) :
    nextItem? '}' first (separator ++ (quoted key ++ rest)) = .ok (some (quoted key ++ rest)) :=
  nextItem?_separates separates (by decide) (by decide) (by decide) _

theorem readKey_quoted (key rest : Text) : readKey (quoted key ++ rest) = .ok (key, rest) := by
  simp [quoted, readKey, readString_quoted]

theorem readColon_before {gap : Text} (blank : Gap gap) (rest : Text) :
    readColon (gap ++ ':' :: rest) = .ok rest := by
  simp [readColon, skipGaps_before blank, isGap]

theorem readMembers_spelled {budget : Nat} {members : List (Text × Json)}
    (reads : ∀ member ∈ members, Reads budget member.2) {first : Bool} (fuel : Nat) {t : Text}
    (inside : SpelledMembers first members t) (enough : 2 * t.length < fuel) (rest : Text) :
    readMembers fuel budget first (t ++ '}' :: rest) = .ok (members, rest) := by
  induction members generalizing first fuel t with
  | nil =>
      obtain ⟨fuel, rfl⟩ : ∃ n, fuel = n + 1 := ⟨fuel - 1, by omega⟩
      cases inside with
      | nil blank =>
          simp [readMembers, nextItem?_closing blank, skipGaps_before blank, isGap, bind,
            Except.bind, pure, Except.pure]
  | cons member members ih =>
      obtain ⟨fuel, rfl⟩ : ∃ n, fuel = n + 1 := ⟨fuel - 1, by omega⟩
      cases inside with
      | @cons _ separator before after s t key value _ separates blank blankAfter spelled others =>
          obtain ⟨readsHere, readsLater⟩ := List.forall_mem_cons.mp reads
          simp only [List.length_append, List.length_cons] at enough
          have found := readsHere fuel blankAfter spelled (others.endsNumber rest)
            (by omega)
          have more := ih readsLater fuel others (by omega)
          simp [readMembers, nextItem?_key separates, readKey_quoted, readColon_before blank, found,
            more, bind, Except.bind, pure, Except.pure]

theorem readWord_append (word rest : Text) : readWord word (word ++ rest) = .ok rest := by
  induction word with
  | nil => rfl
  | cons c word ih => simp [readWord, ih]

theorem readValue_scalar {c : Char} {gap t : Text} (blank : Gap gap) (visible : isGap c = false)
    (noArray : c ≠ '[') (noObject : c ≠ '{') (fuel budget : Nat) :
    readValue (fuel + 1) budget (gap ++ c :: t) = readScalar (c :: t) := by
  rw [readValue, skipGaps_before blank visible]
  split <;> simp_all

theorem readValue_bool (value : Bool) {gap : Text} (blank : Gap gap) (fuel budget : Nat)
    (rest : Text) :
    readValue (fuel + 1) budget
        (gap ++ ((if value then "true" else "false" : String).toList ++ rest)) =
      .ok (.bool value, rest) := by
  cases value with
  | true =>
      change readValue (fuel + 1) budget (gap ++ 't' :: ("rue".toList ++ rest)) = _
      rw [readValue_scalar blank (by decide) (by decide) (by decide), readScalar,
        readWord_append]
      rfl
  | false =>
      change readValue (fuel + 1) budget (gap ++ 'f' :: ("alse".toList ++ rest)) = _
      rw [readValue_scalar blank (by decide) (by decide) (by decide), readScalar,
        readWord_append]
      rfl

theorem readValue_number {n : JsonNumber} (fits : n.IsInteger) {gap rest : Text}
    (blank : Gap gap) (ends : EndsNumber rest) (fuel budget : Nat) :
    readValue (fuel + 1) budget (gap ++ (n.text ++ rest)) = .ok (.number n, rest) := by
  cases n with
  | natural n =>
      obtain ⟨d, more, whole, -⟩ := exists_decimal_eq n
      have digit : d.isDigit = true := isDigit_of_mem_decimal (by rw [whole]; simp)
      have number := readNumber_natural fits ends
      rw [whole, List.cons_append] at number
      rw [JsonNumber.text, whole, List.cons_append, readValue_scalar blank
        (isGap_of_isDigit digit) (ne_of_isDigit digit (by decide))
        (ne_of_isDigit digit (by decide)), ← number]
      unfold readScalar
      split <;> simp_all
  | negative n =>
      rw [JsonNumber.text, List.cons_append, readValue_scalar blank (by decide) (by decide)
        (by decide)]
      exact readNumber_negative fits.1 fits.2 ends
  | binary x => cases fits

/-- A value with integers and with brackets that do not nest too deep is read from any of its
texts. -/
theorem reads_of_within {budget : Nat} {value : Json}
    (within : Within JsonNumber.IsInteger budget value) : Reads budget value := by
  -- Each bracket takes from the budget what the bound on what is inside has less of.
  induction within with
  | @null budget =>
      intro fuel gap s rest blank spelled ends enough
      cases spelled
      obtain ⟨fuel, rfl⟩ : ∃ n, fuel = n + 1 := ⟨fuel - 1, by simp at enough; omega⟩
      change readValue (fuel + 1) budget (gap ++ 'n' :: ("ull".toList ++ rest)) = _
      rw [readValue_scalar blank (by decide) (by decide) (by decide), readScalar, readWord_append]
      rfl
  | bool value =>
      intro fuel gap s rest blank spelled ends enough
      cases spelled
      obtain ⟨fuel, rfl⟩ : ∃ n, fuel = n + 1 :=
        ⟨fuel - 1, by cases value <;> simp at enough <;> omega⟩
      exact readValue_bool value blank fuel _ rest
  | @number budget n fits =>
      intro fuel gap s rest blank spelled ends enough
      have within : Within JsonNumber.IsInteger budget (.number n) := .number fits
      obtain ⟨c, tail, whole, -⟩ := exists_of_spelled within spelled
      cases spelled
      obtain ⟨fuel, rfl⟩ : ∃ n, fuel = n + 1 :=
        ⟨fuel - 1, by rw [whole, List.length_cons] at enough; omega⟩
      exact readValue_number fits blank ends fuel _
  | @string budget t =>
      intro fuel gap s rest blank spelled ends enough
      cases spelled
      obtain ⟨fuel, rfl⟩ : ∃ n, fuel = n + 1 := ⟨fuel - 1, by simp [quoted] at enough; omega⟩
      have found := readString_quoted t rest
      simp only [quoted, List.cons_append, List.append_assoc, List.nil_append]
      rw [readValue_scalar blank (by decide) (by decide) (by decide), readScalar, found]
      rfl
  | array inside ih =>
      intro fuel gap s rest blank spelled ends enough
      cases spelled with
      | array items =>
          obtain ⟨fuel, rfl⟩ : ∃ n, fuel = n + 1 := ⟨fuel - 1, by simp at enough; omega⟩
          simp only [List.length_append, List.length_cons, List.length_nil] at enough
          have read := readItems_spelled inside ih fuel items (by omega) rest
          simp [readValue, skipGaps_before blank, isGap, read, Except.map]
  | object inside ih =>
      intro fuel gap s rest blank spelled ends enough
      cases spelled with
      | object members =>
          obtain ⟨fuel, rfl⟩ : ∃ n, fuel = n + 1 := ⟨fuel - 1, by simp at enough; omega⟩
          simp only [List.length_append, List.length_cons, List.length_nil] at enough
          have read := readMembers_spelled ih fuel members (by omega) rest
          simp [readValue, skipGaps_before blank, isGap, read, Except.map]

theorem skipGaps_of_gap {gap : Text} (blank : Gap gap) : skipGaps gap = [] :=
  List.dropWhile_eq_nil_iff.mpr blank

theorem parse_spelled {value : Json} {s gap : Text}
    (within : Within JsonNumber.IsInteger depthBudget value) (spelled : Spelled value s)
    (blank : Gap gap) : parse (s ++ gap) = .ok value := by
  have ends : EndsNumber gap := by
    have nothing : EndsNumber [] := by simp [EndsNumber]
    simpa using endsNumber_of_gap blank nothing
  have read := reads_of_within within (fuelFor (s ++ gap)) gap_nil spelled ends
    (by simp [fuelFor]; omega)
  rw [List.nil_append] at read
  simp [parse, read, readEnd, skipGaps_of_gap blank, bind, Except.bind, pure, Except.pure]

end Json

end ClassLint
