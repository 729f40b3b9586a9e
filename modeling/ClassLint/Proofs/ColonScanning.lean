import ClassLint.Proofs.Conservation
import ClassLint.Proofs.Strides

/-! Where a declaration divides. The scan for its colon reads the text of a statement a second time,
with a quote and a count where the statement was read by strides. What it takes for a shelter is
said by a grammar of its own, and where all strides look plain to it, it finds the colon that the
statement has free. -/

namespace ClassLint

/-! ### What the scan passes over -/

def ColonScan.Passes (scan next : ColonScan) (t : Text) : Prop :=
  ∀ rest, splitColon scan (t ++ rest) = (splitColon next rest).map (Taken.prepend t)

/-- For the scan a quote closes a string whatever stands before it, a bracket of either kind closes
any other, and backslashes, slashes and braces are characters. Colons stand in strings or, unless
the text itself is within brackets, in brackets. A closing bracket with nothing to close is passed
over. -/
inductive Sheltered : Bool → Text → Prop where
  | nil {within : Bool} : Sheltered within []
  | character {within : Bool} {c : Char} {t : Text} (unquoted : isQuote c = false)
      (unopened : isOpening c = false) (unclosed : isClosing c = false)
      (inside : c = ':' → within = true) (more : Sheltered within t) : Sheltered within (c :: t)
  | quoted {within : Bool} {quote : Char} {inner t : Text} (mark : isQuote quote = true)
      (absent : quote ∉ inner) (more : Sheltered within t) :
      Sheltered within (quote :: (inner ++ quote :: t))
  | bracketed {within : Bool} {opening closing : Char} {inner t : Text}
      (opens : isOpening opening = true) (closes : isClosing closing = true)
      (inside : Sheltered true inner) (more : Sheltered within t) :
      Sheltered within (opening :: (inner ++ closing :: t))
  | stray {c : Char} {t : Text} (closes : isClosing c = true) (more : Sheltered false t) :
      Sheltered false (c :: t)

section Scanning

variable {scan middle next : ColonScan} {depth : Nat} {c quote : Char}
  {s t inner before after : Text}

theorem passes_nil : scan.Passes scan [] := by
  intro rest
  rw [List.nil_append]
  cases splitColon scan rest <;> rfl

theorem ColonScan.Passes.append (first : scan.Passes middle s) (second : middle.Passes next t) :
    scan.Passes next (s ++ t) := by
  intro rest
  rw [List.append_assoc, first, second, Option.map_map]
  exact congrArg (Option.map · (splitColon next rest)) (funext (Taken.prepend_prepend s t))

theorem passes_of_step (inside : (c = ':' && scan.quote?.isNone && scan.depth = 0) = false)
    (stepped : scan.step c = next) : scan.Passes next [c] := by
  intro rest
  rw [List.singleton_append, splitColon, inside, stepped]
  rfl

theorem step_quote (mark : isQuote c = true) :
    ColonScan.step ⟨none, depth⟩ c = ⟨some c, depth⟩ := by
  simp only [isQuote, Bool.or_eq_true, decide_eq_true_eq] at mark
  rcases mark with rfl | rfl <;> rfl

theorem step_inQuotes (other : c ≠ quote) :
    ColonScan.step ⟨some quote, depth⟩ c = ⟨some quote, depth⟩ := by
  simp [ColonScan.step, other]

theorem step_unquote : ColonScan.step ⟨some quote, depth⟩ quote = ⟨none, depth⟩ := by
  simp [ColonScan.step]

theorem step_opening (opens : isOpening c = true) :
    ColonScan.step ⟨none, depth⟩ c = ⟨none, depth + 1⟩ := by
  simp only [isOpening, Bool.or_eq_true, decide_eq_true_eq] at opens
  rcases opens with rfl | rfl <;> rfl

theorem step_closing (closes : isClosing c = true) :
    ColonScan.step ⟨none, depth⟩ c = ⟨none, depth - 1⟩ := by
  simp only [isClosing, Bool.or_eq_true, decide_eq_true_eq] at closes
  rcases closes with rfl | rfl <;> rfl

theorem step_character (unquoted : isQuote c = false) (unopened : isOpening c = false)
    (unclosed : isClosing c = false) : ColonScan.step ⟨none, depth⟩ c = ⟨none, depth⟩ := by
  simp only [ColonScan.step]
  split
  · cases unquoted
  · cases unquoted
  · cases unopened
  · cases unopened
  · cases unclosed
  · cases unclosed
  · rfl

theorem passes_of_ne (other : c ≠ ':') (stepped : scan.step c = next) : scan.Passes next [c] :=
  passes_of_step (by simp [other]) stepped

theorem passes_opening (opens : isOpening c = true) :
    ColonScan.Passes ⟨none, depth⟩ ⟨none, depth + 1⟩ [c] := by
  refine passes_of_ne ?_ (step_opening opens)
  rintro rfl
  cases opens

theorem passes_closing (closes : isClosing c = true) :
    ColonScan.Passes ⟨none, depth⟩ ⟨none, depth - 1⟩ [c] := by
  refine passes_of_ne ?_ (step_closing closes)
  rintro rfl
  cases closes

theorem passes_character (unquoted : isQuote c = false) (unopened : isOpening c = false)
    (unclosed : isClosing c = false) (inside : c = ':' → 0 < depth) :
    ColonScan.Passes ⟨none, depth⟩ ⟨none, depth⟩ [c] := by
  refine passes_of_step ?_ (step_character unquoted unopened unclosed)
  by_cases colon : c = ':'
  · simp [Nat.pos_iff_ne_zero.mp (inside colon)]
  · simp [colon]

theorem passes_inString (absent : quote ∉ inner) :
    ColonScan.Passes ⟨some quote, depth⟩ ⟨some quote, depth⟩ inner := by
  induction inner with
  | nil => exact passes_nil
  | cons c inner ih =>
      rw [List.mem_cons, not_or] at absent
      have first : ColonScan.Passes ⟨some quote, depth⟩ ⟨some quote, depth⟩ [c] :=
        passes_of_step (by simp) (step_inQuotes (Ne.symm absent.1))
      exact first.append (ih absent.2)

theorem passes_string (mark : isQuote quote = true) (absent : quote ∉ inner) :
    ColonScan.Passes ⟨none, depth⟩ ⟨none, depth⟩ (quote :: (inner ++ [quote])) := by
  have opens : quote ≠ ':' := by
    rintro rfl
    cases mark
  exact (passes_of_ne opens (step_quote mark)).append
    ((passes_inString absent).append (passes_of_ne opens step_unquote))

theorem passes_sheltered {within : Bool} (sheltered : Sheltered within t)
    (same : within = decide (0 < depth)) : ColonScan.Passes ⟨none, depth⟩ ⟨none, depth⟩ t := by
  induction sheltered generalizing depth with
  | nil => exact passes_nil
  | character unquoted unopened unclosed inside _ ih =>
      refine (passes_character unquoted unopened unclosed ?_).append (ih same)
      intro colon
      simpa [inside colon] using same
  | quoted mark absent _ ih => simpa using (passes_string mark absent).append (ih same)
  | bracketed opens closes _ _ ihInside ih =>
      have inside : ColonScan.Passes ⟨none, depth + 1⟩ ⟨none, depth + 1⟩ _ := ihInside (by simp)
      exact (passes_opening opens).append (inside.append ((passes_closing closes).append (ih same)))
  | stray closes _ ih =>
      have outermost : depth = 0 := by simpa using same
      subst outermost
      exact (passes_closing closes).append (ih same)

/-- A text that closes everything a scan has open, and nothing else. -/
inductive Settles : ColonScan → Text → Prop where
  | nothing {t : Text} (sheltered : Sheltered false t) : Settles ⟨none, 0⟩ t
  | bracket {depth : Nat} {inner t : Text} {closing : Char} (inside : Sheltered true inner)
      (closes : isClosing closing = true) (more : Settles ⟨none, depth⟩ t) :
      Settles ⟨none, depth + 1⟩ (inner ++ closing :: t)
  | string {depth : Nat} {quote : Char} {inner t : Text} (absent : quote ∉ inner)
      (more : Settles ⟨none, depth⟩ t) : Settles ⟨some quote, depth⟩ (inner ++ quote :: t)

theorem Settles.prepend (unit : Text) (settles : Settles ⟨none, depth⟩ t)
    (add : ∀ t, Sheltered (decide (0 < depth)) t → Sheltered (decide (0 < depth)) (unit ++ t)) :
    Settles ⟨none, depth⟩ (unit ++ t) := by
  cases settles with
  | nothing sheltered => exact .nothing (add _ sheltered)
  | bracket inside closing more =>
      rw [← List.append_assoc]
      exact .bracket (by simpa using add _ (by simpa using inside)) closing more

theorem settles_of_splitColon (found : splitColon scan t = some (before, after)) :
    Settles scan before := by
  induction t generalizing scan before with
  | nil => cases found
  | cons c rest ih =>
      rw [splitColon] at found
      split at found
      · rename_i free
        cases found
        obtain ⟨quote?, depth⟩ := scan
        simp only [Bool.and_eq_true, decide_eq_true_eq, Option.isNone_iff_eq_none] at free
        obtain ⟨⟨-, rfl⟩, rfl⟩ := free
        exact .nothing .nil
      rename_i sheltered
      obtain ⟨⟨later, _⟩, tail, same⟩ := Option.map_eq_some_iff.mp found
      cases same
      have settles := ih tail
      obtain ⟨_ | quote, depth⟩ := scan
      · by_cases mark : isQuote c = true
        · rw [step_quote mark] at settles
          cases settles with
          | string absent more =>
              rename_i inner t
              have whole := more.prepend (c :: (inner ++ [c])) fun _ sheltered => by
                simpa using Sheltered.quoted mark absent sheltered
              simpa using whole
        by_cases opens : isOpening c = true
        · rw [step_opening opens] at settles
          cases settles with
          | bracket inside closes more =>
              rename_i inner t closing
              have whole := more.prepend (c :: (inner ++ [closing])) fun _ sheltered => by
                simpa using Sheltered.bracketed opens closes inside sheltered
              simpa using whole
        by_cases closes : isClosing c = true
        · rw [step_closing closes] at settles
          -- The count stays at zero, as for a character; above zero it loses the bracket.
          cases depth with
          | zero =>
              cases settles with
              | nothing sheltered => exact .nothing (.stray closes sheltered)
          | succ depth => exact .bracket .nil closes settles
        · simp only [Bool.not_eq_true] at mark opens closes
          rw [step_character mark opens closes] at settles
          refine settles.prepend [c] fun _ => .character mark opens closes ?_
          rintro rfl
          simpa [Nat.pos_iff_ne_zero] using sheltered
      · by_cases closes : c = quote
        · subst closes
          rw [step_unquote] at settles
          exact .string List.not_mem_nil settles
        · rw [step_inQuotes closes] at settles
          cases settles with
          | string absent more =>
              exact .string (List.not_mem_cons_of_ne_of_not_mem (Ne.symm closes) absent) more

end Scanning

/-! ### Where the scan divides -/

/-- A text divides at a colon in front of which everything is sheltered, or does not divide if it
has no such colon. -/
def Divides (t : Text) : Option Taken → Prop
  | some (before, after) => before ++ ':' :: after = t ∧ Sheltered false before
  | none => ∀ before after, before ++ ':' :: after = t → ¬Sheltered false before

theorem splitColon_eq_some_iff {t before after : Text} :
    splitColon ⟨none, 0⟩ t = some (before, after) ↔ Divides t (some (before, after)) := by
  constructor
  · intro found
    refine ⟨splitColon_append found, ?_⟩
    cases settles_of_splitColon found with
    | nothing sheltered => exact sheltered
  · rintro ⟨rfl, sheltered⟩
    have passes : ColonScan.Passes ⟨none, 0⟩ ⟨none, 0⟩ before :=
      passes_sheltered sheltered (by simp)
    rw [passes]
    simp [splitColon, Taken.prepend]

theorem splitColon_eq_iff {t : Text} {split : Option Taken} :
    splitColon ⟨none, 0⟩ t = split ↔ Divides t split := by
  rcases split with _ | ⟨before, after⟩
  · simp only [Option.eq_none_iff_forall_ne_some, Prod.forall, ne_eq, splitColon_eq_some_iff,
      Divides, not_and]
  · exact splitColon_eq_some_iff

instance (t : Text) (split : Option Taken) : Decidable (Divides t split) :=
  decidable_of_iff _ splitColon_eq_iff

theorem passes_blanks {blanks : Text} (blank : AllBlank blanks) :
    ColonScan.Passes ⟨none, 0⟩ ⟨none, 0⟩ blanks := by
  induction blanks with
  | nil => exact passes_nil
  | cons c blanks ih =>
      obtain ⟨first, others⟩ := List.forall_mem_cons.mp blank
      have other (d : Char) (visible : isBlank d = false) : c ≠ d := ne_of_isBlank first visible
      have character : ColonScan.Passes ⟨none, 0⟩ ⟨none, 0⟩ [c] := by
        apply passes_character
        · simp [isQuote, other '"' (by decide), other '\'' (by decide)]
        · simp [isOpening, other '(' (by decide), other '[' (by decide)]
        · simp [isClosing, other ')' (by decide), other ']' (by decide)]
        · exact fun colon => absurd colon (other ':' (by decide))
      exact character.append (ih others)

theorem splitColon_eq_none {scan : ColonScan} {t : Text} (absent : ':' ∉ t) :
    splitColon scan t = none := by
  rw [Option.eq_none_iff_forall_ne_some]
  intro taken found
  have whole := splitColon_append found
  exact absent (by simp [← whole])

theorem not_mem_of_allBlank {blanks : Text} (blank : AllBlank blanks) : ':' ∉ blanks :=
  fun member => absurd (blank ':' member) (by decide)

theorem splitColon_append_of_not_mem {scan : ColonScan} {t after : Text} (absent : ':' ∉ after) :
    splitColon scan (t ++ after) =
      (splitColon scan t).map fun taken => (taken.1, taken.2 ++ after) := by
  induction t generalizing scan with
  | nil => exact splitColon_eq_none absent
  | cons c t ih =>
      rw [List.cons_append, splitColon, splitColon]
      split
      · rfl
      · rw [ih, Option.map_map, Option.map_map]
        rfl

/-! ### The declaration at a colon -/

def divided (t : Text) (place : Position) : Option Taken → Except SheetError Declaration
  | none => .error ⟨.unknownWord (firstWord t), place⟩
  | some (property, value) =>
    .ok ⟨trim property, (stripImportant value).1, (stripImportant value).2, place⟩

theorem parse_eq_divided (t : Text) (place : Position) :
    Declaration.parse t place = divided t place (splitColon ⟨none, 0⟩ t) := by
  rw [Declaration.parse]
  cases splitColon ⟨none, 0⟩ t <;> rfl

theorem parse_trim (t : Text) (place : Position) :
    Declaration.parse (trim t) place = divided (trim t) place (splitColon ⟨none, 0⟩ t) := by
  obtain ⟨before, after, leading, trailing, whole⟩ := exists_trim t
  have split : splitColon ⟨none, 0⟩ t = (splitColon ⟨none, 0⟩ (trim t)).map fun taken =>
      (before ++ taken.1, taken.2 ++ after) := by
    conv_lhs => rw [← whole]
    rw [passes_blanks leading, splitColon_append_of_not_mem (not_mem_of_allBlank trailing),
      Option.map_map]
    rfl
  rw [parse_eq_divided, split]
  rcases splitColon ⟨none, 0⟩ (trim t) with _ | ⟨property, value⟩
  · rfl
  · have left : trim (before ++ property) = trim property := by
      simpa using trim_append_blanks leading allBlank_nil property
    have right : trim (value ++ after) = trim value :=
      trim_append_blanks allBlank_nil trailing value
    simp only [divided, Option.map_some, left, stripImportant, right]

theorem count_trim (t : Text) : (trim t).count ':' = t.count ':' := by
  obtain ⟨before, after, leading, trailing, whole⟩ := exists_trim t
  conv_rhs => rw [← whole]
  rw [List.count_append, List.count_append, List.count_eq_zero.mpr (not_mem_of_allBlank leading),
    List.count_eq_zero.mpr (not_mem_of_allBlank trailing), Nat.zero_add, Nat.add_zero]

theorem front_eq_of_count {before after front rest : Text}
    (same : before ++ ':' :: after = front ++ ':' :: rest)
    (count : before.count ':' = front.count ':') : before = front := by
  obtain ⟨middle, rfl, tail⟩ | ⟨middle, rfl, tail⟩ := List.append_eq_append_iff.mp same
  all_goals
    cases middle with
    | nil => simp
    | cons c middle =>
        cases tail
        simp at count

theorem divided_inj {t source : Text} {place : Position} {split other : Option Taken}
    (first : ∀ taken ∈ split, taken.1 ++ ':' :: taken.2 = source)
    (second : ∀ taken ∈ other, taken.1 ++ ':' :: taken.2 = source)
    (same : divided t place split = divided t place other) : split = other := by
  rcases split with _ | ⟨property, value⟩ <;> rcases other with _ | ⟨front, rest⟩
  · rfl
  · cases same
  · cases same
  · have whole := (first _ rfl).trans (second _ rfl).symm
    simp only [divided, Except.ok.injEq, Declaration.mk.injEq] at same
    have count := congrArg (List.count ':') same.1
    rw [count_trim, count_trim] at count
    have left := front_eq_of_count whole count
    subst left
    cases List.append_cancel_left whole
    rfl

/-! ### The free colon of a statement -/

/-- A colon that is a stride of its own where no bracket is open. -/
def Stride.isFreeColon (stride : Stride) : Bool :=
  stride.brackets.isEmpty && stride.text == [':']

/-- What a statement writes before and after its first free colon. -/
def freeColon? : List Stride → Option Taken
  | [] => none
  | stride :: more =>
    if stride.isFreeColon then some ([], written more)
    else (freeColon? more).map (Taken.prepend stride.text)

def beforeColon (steps : List Stride) : List Stride :=
  steps.takeWhile fun stride => !stride.isFreeColon

theorem append_of_freeColon? {steps : List Stride} {taken : Taken}
    (found : freeColon? steps = some taken) : taken.1 ++ ':' :: taken.2 = written steps := by
  induction steps generalizing taken with
  | nil => cases found
  | cons stride more ih =>
      rw [written, List.flatMap_cons, ← written]
      rw [freeColon?] at found
      split at found
      · rename_i free
        cases found
        simp only [Stride.isFreeColon, Bool.and_eq_true, beq_iff_eq] at free
        rw [free.2]
        rfl
      · obtain ⟨later, tail, rfl⟩ := Option.map_eq_some_iff.mp found
        rw [← ih tail, Taken.prepend, List.append_assoc]

/-- The brackets that the scan for a colon counts. -/
def countedDepth (brackets : List OpenBracket) : Nat :=
  brackets.countP fun bracket => bracket.mark ≠ '{'

def isQuiet (c : Char) : Bool := !isQuote c && !isOpening c && !isClosing c && c ≠ ':'

/-- The scan for a colon takes the stride for what it is: a closing bracket closes the last one that
is open, or none is; a colon is in a bracket; a string does not have its own quote inside, and
comments, escapes and the marks of interpolations have nothing that would be counted. -/
def Stride.isPlain (stride : Stride) : Bool :=
  let depth := countedDepth stride.brackets
  match stride.text with
  | [] => true
  | [c] => (!isClosing c || closesLast stride.brackets c || depth = 0) && (c ≠ ':' || depth ≠ 0)
  | c :: inner => if isQuote c then !inner.dropLast.contains c else (c :: inner).all isQuiet

theorem countedDepth_opening {c : Char} (opens : isOpening c = true) (position : Position)
    (brackets : List OpenBracket) :
    countedDepth (⟨c, position⟩ :: brackets) = countedDepth brackets + 1 := by
  have other : c ≠ '{' := by
    rintro rfl
    cases opens
  simp [countedDepth, other]

theorem closing_cases {brackets : List OpenBracket} {c : Char}
    (closes : closesLast brackets c = true) :
    isClosing c = true ∧ countedDepth brackets.tail = countedDepth brackets - 1 ∨
      c = '}' ∧ countedDepth brackets.tail = countedDepth brackets := by
  cases brackets with
  | nil => cases closes
  | cons bracket brackets =>
      rcases closedBy_cases closes with ⟨round, rfl⟩ | ⟨square, rfl⟩ | ⟨brace, rfl⟩
      · exact .inl ⟨rfl, by simp [countedDepth, round]⟩
      · exact .inl ⟨rfl, by simp [countedDepth, square]⟩
      · exact .inr ⟨rfl, by simp [countedDepth, brace]⟩

theorem passes_quiet {depth : Nat} {t : Text} (quiet : t.all isQuiet = true) :
    ColonScan.Passes ⟨none, depth⟩ ⟨none, depth⟩ t := by
  induction t with
  | nil => exact passes_nil
  | cons c t ih =>
      rw [List.all_cons, Bool.and_eq_true] at quiet
      obtain ⟨first, others⟩ := quiet
      simp only [isQuiet, Bool.and_eq_true, Bool.not_eq_true', decide_eq_true_eq] at first
      obtain ⟨⟨⟨unquoted, unopened⟩, unclosed⟩, other⟩ := first
      exact (passes_character unquoted unopened unclosed fun colon => absurd colon other).append
        (ih others)

theorem passes_of_isPlain {dialect : Dialect} {brackets : List OpenBracket} {position : Position}
    {t : Text} {step : Step} (moves : Advances dialect brackets position t step)
    (plain : Stride.isPlain ⟨brackets, step⟩ = true) :
    ColonScan.Passes ⟨none, countedDepth brackets⟩ ⟨none, countedDepth step.brackets⟩
      (Stride.text ⟨brackets, step⟩) := by
  have unslashed : isQuote '/' = false := by decide
  have unescaping : isQuote '\\' = false := by decide
  cases moves with
  | @quoted quote inner mark inside rest =>
      refine passes_string mark ?_
      cases inner with
      | nil => exact List.not_mem_nil
      | cons d inner =>
          have body : (d :: (inner ++ [quote])).dropLast = d :: inner := by
            rw [← List.cons_append, List.dropLast_concat]
          simpa [Stride.isPlain, Stride.text, mark, body] using plain
  | commented body rest =>
      exact passes_quiet (by simpa [Stride.isPlain, Stride.text, unslashed] using plain)
  | escaped c rest =>
      exact passes_quiet (by simpa [Stride.isPlain, Stride.text, unescaping] using plain)
  | dropped => exact passes_nil
  | interpolation scss rest =>
      have quiet : ['#', '{'].all isQuiet = true := by decide
      exact passes_quiet quiet
  | opening opens rest =>
      rw [countedDepth_opening opens]
      exact passes_opening opens
  | @closing c closes rest =>
      rcases closing_cases closes with ⟨closing, counted⟩ | ⟨rfl, counted⟩
      · rw [counted]
        exact passes_closing closing
      · rw [counted]
        exact passes_character (by decide) (by decide) (by decide) (by simp)
  | @character c rest unquoted unopened unclosed unescaped =>
      simp only [Stride.isPlain, Stride.text, if_true, unclosed, Bool.or_false, Bool.and_eq_true,
        Bool.or_eq_true, Bool.not_eq_true', decide_eq_true_eq] at plain
      obtain ⟨closing, colon⟩ := plain
      cases closes : isClosing c with
      | true =>
          -- A closing bracket that closes nothing leaves a count of zero as it is.
          have outermost : countedDepth brackets = 0 := by simpa [closes] using closing
          have passes : ColonScan.Passes ⟨none, 0⟩ ⟨none, 0⟩ [c] := passes_closing closes
          rw [← outermost] at passes
          exact passes
      | false =>
          refine passes_character unquoted unopened closes fun same => ?_
          exact Nat.pos_of_ne_zero (by simpa [same] using colon)

/-- Up to the first free colon the scan counts the brackets that are open, as long as every stride
is plain to it. -/
theorem splitColon_written {dialect : Dialect} {brackets : List OpenBracket} {position : Position}
    {t : Text}
    (plain : ∀ stride ∈ beforeColon (strides dialect brackets position t), stride.isPlain = true) :
    splitColon ⟨none, countedDepth brackets⟩ (written (strides dialect brackets position t)) =
      freeColon? (strides dialect brackets position t) := by
  fun_induction strides dialect brackets position t
  case case1 => rfl
  case case2 => rfl
  case case3 => rfl
  case case4 brackets position c rest _ step found _ _ ih =>
    rw [written, List.flatMap_cons, ← written, freeColon?]
    split
    · rename_i free
      simp only [Stride.isFreeColon, Bool.and_eq_true, beq_iff_eq, List.isEmpty_iff] at free
      obtain ⟨rfl, colon⟩ := free
      rw [colon]
      rfl
    · rename_i taken
      rw [beforeColon, List.takeWhile_cons_of_pos (by simpa using taken)] at plain
      obtain ⟨first, others⟩ := List.forall_mem_cons.mp plain
      rw [passes_of_isPlain (advances_of_nextStep found) first, ih others]

/-- The text of a statement is read as the declaration that divides at its first free colon, or as
an unknown word if it has no such colon. -/
def DividesFreely (steps : List Stride) (t : Text) (place : Position) : Prop :=
  Declaration.parse (trim t) place = divided (trim t) place (freeColon? steps)

instance (steps : List Stride) (t : Text) (place : Position) :
    Decidable (DividesFreely steps t place) := inferInstanceAs (Decidable (_ = _))

/-- A declaration divides at the first free colon of its statement exactly if everything before that
colon is sheltered to the scan and, where the statement has no free colon, something before every
other is not. Where every stride before the free colon is plain to the scan, it does. -/
theorem parse_dividesFreely {dialect : Dialect} {position : Position} {source : Text}
    {prelude : Prelude} (read : readPrelude dialect [] position source = .ok prelude)
    (place : Position) :
    let steps := strides dialect [] position source
    (DividesFreely steps prelude.text place ↔ Divides prelude.text (freeColon? steps)) ∧
      ((∀ stride ∈ beforeColon steps, stride.isPlain = true) →
        DividesFreely steps prelude.text place) := by
  intro steps
  have whole : prelude.text = written steps := text_eq_written read
  have found : splitColon ⟨none, 0⟩ prelude.text = freeColon? steps →
      DividesFreely steps prelude.text place := by
    intro same
    rw [DividesFreely, parse_trim, same]
  refine ⟨⟨?_, ?_⟩, ?_⟩
  · intro same
    rw [DividesFreely, parse_trim] at same
    have first : ∀ taken ∈ splitColon ⟨none, 0⟩ prelude.text,
        taken.1 ++ ':' :: taken.2 = prelude.text := fun _ => splitColon_append
    have second : ∀ taken ∈ freeColon? steps, taken.1 ++ ':' :: taken.2 = prelude.text :=
      fun _ free => (append_of_freeColon? free).trans whole.symm
    exact splitColon_eq_iff.mp (divided_inj first second same)
  · exact fun divides => found (splitColon_eq_iff.mpr divides)
  · intro plain
    apply found
    rw [whole]
    exact splitColon_written plain

/-- Each kind of stride before the free colon, and colons in a string, in brackets and behind it. -/
def nestedStatement : Text :=
  "b-#\x7bc\x7d[d='):']/*e*/\\f // g: h\n : url(i:j) !important;"

theorem parse_dividesFreely_nested :
    readPrelude .scss [] .start nestedStatement =
        .ok ⟨"b-#\x7bc\x7d[d='):']/*e*/\\f \n : url(i:j) !important", ";", ⟨2, 23⟩⟩ ∧
      (∀ stride ∈ beforeColon (strides .scss [] .start nestedStatement), stride.isPlain = true) ∧
      Declaration.parse "b-#\x7bc\x7d[d='):']/*e*/\\f \n : url(i:j) !important" .start =
        .ok ⟨"b-#\x7bc\x7d[d='):']/*e*/\\f", "url(i:j)", true, .start⟩ := by
  have read : readPrelude .scss [] .start nestedStatement =
      .ok ⟨"b-#\x7bc\x7d[d='):']/*e*/\\f \n : url(i:j) !important", ";", ⟨2, 23⟩⟩ := by
    decide +kernel
  have plain : ∀ stride ∈ beforeColon (strides .scss [] .start nestedStatement),
      stride.isPlain = true := by
    decide +kernel
  have same := (parse_dividesFreely read .start).2 plain
  exact ⟨read, plain, same.trans (by decide +kernel)⟩

/-- The colon in the comment is not free, and the one behind the comment is. -/
theorem parse_not_dividesFreely_comment :
    ¬∀ (dialect : Dialect) (position : Position) (source : Text) (prelude : Prelude)
        (place : Position), readPrelude dialect [] position source = .ok prelude →
      DividesFreely (strides dialect [] position source) prelude.text place := by
  intro agrees
  have divides := agrees .css .start "b/*:*/:c\x7d" ⟨"b/*:*/:c", "\x7d", ⟨1, 9⟩⟩ .start
    (by decide +kernel)
  exact absurd divides (by decide +kernel)

end ClassLint
