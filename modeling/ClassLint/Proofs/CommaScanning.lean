import ClassLint.Nesting
import ClassLint.Proofs.Segments
import ClassLint.Proofs.Trimming

/-! The scan for the commas that divide a selector list: what it cuts the list into, and the texts
it passes over as over a unit. -/

namespace ClassLint

namespace CommaScan

def pass (scan : CommaScan) : Text → Option CommaScan
  | [] => some scan
  | c :: rest => if scan.divides c then none else (scan.step c).pass rest

def prepend (t : Text) : List Text → List Text
  | [] => [t]
  | first :: others => (t ++ first) :: others

/-- The texts between the commas that divide. -/
def between (scan : CommaScan) : Text → List Text
  | [] => [[]]
  | c :: rest =>
    if scan.divides c then [] :: (scan.step c).between rest
    else prepend [c] ((scan.step c).between rest)

def answered (scan : CommaScan) : Text → List (Char × Bool)
  | [] => []
  | c :: rest => (c, scan.divides c) :: (scan.step c).answered rest

theorem answers_separates (scan : CommaScan) (index : Nat) (t : Text) :
    ((Segment.answers separates index t).run scan).1 = scan.answered t := by
  induction t generalizing scan index with
  | nil => rfl
  | cons c rest ih =>
      have first : (separates c index).run scan = (scan.divides c, scan.step c) := rfl
      rw [Segment.answers, StateT.run_bind, first]
      exact congrArg ((c, scan.divides c) :: ·) (ih (scan.step c) (index + 1))

theorem runs_ofAnswers (scan : CommaScan) (t : Text) :
    (Segment.ofAnswers (scan.answered t)).filterMap Segment.run? = scan.between t := by
  induction t generalizing scan with
  | nil => rfl
  | cons c rest ih =>
      rw [answered, between, ← ih]
      cases scan.divides c with
      | true => rfl
      | false =>
          obtain ⟨run, others, same⟩ := Segment.exists_ofAnswers ((scan.step c).answered rest)
          simp only [Segment.ofAnswers, same]
          rfl

end CommaScan

theorem filter_dropTrailingEmpty (runs : List Text) :
    ((Segment.dropTrailingEmpty runs).map trim).filter (fun t => !t.isEmpty) =
      (runs.map trim).filter fun t => !t.isEmpty := by
  induction runs with
  | nil => rfl
  | cons first rest ih =>
      rw [List.map_cons, List.filter_cons, ← ih]
      cases first with
      | cons c first => simp [Segment.dropTrailingEmpty, List.filter_cons]
      | nil =>
          have empty : trim [] = [] := rfl
          cases kept : Segment.dropTrailingEmpty rest <;>
            simp [Segment.dropTrailingEmpty, kept, empty]

theorem selectorTexts_eq_between (raw : Text) :
    selectorTexts raw =
      ((CommaScan.start.between raw).map trim).filter fun t => !t.isEmpty := by
  cases raw with
  | nil => rfl
  | cons c rest =>
      have answers := CommaScan.answers_separates .start 0 (c :: rest)
      have segments : ((Segment.split CommaScan.separates (c :: rest)).run .start).1 =
          Segment.ofAnswers (CommaScan.start.answered (c :: rest)) := by
        rw [← answers]
        rfl
      rw [selectorTexts, ← CommaScan.runs_ofAnswers, ← segments]
      exact filter_dropTrailingEmpty _

namespace CommaScan

theorem between_ne_nil (scan : CommaScan) (t : Text) : scan.between t ≠ [] := by
  cases t with
  | nil => simp [between]
  | cons c rest =>
      rw [between]
      split
      · simp
      · cases (scan.step c).between rest <;> simp [prepend]

theorem prepend_prepend (s t : Text) (texts : List Text) :
    prepend s (prepend t texts) = prepend (s ++ t) texts := by
  cases texts <;> simp [prepend]

theorem between_append {scan next : CommaScan} {t : Text} (passed : scan.pass t = some next)
    (rest : Text) : scan.between (t ++ rest) = prepend t (next.between rest) := by
  induction t generalizing scan with
  | nil =>
      cases passed
      obtain ⟨first, others, same⟩ := List.exists_cons_of_ne_nil (between_ne_nil next rest)
      rw [List.nil_append, same]
      rfl
  | cons c t ih =>
      rw [pass] at passed
      split at passed
      · cases passed
      · rename_i inside
        rw [List.cons_append, between, if_neg inside, ih passed, prepend_prepend]
        rfl

theorem pass_append {scan next final : CommaScan} {s t : Text} (first : scan.pass s = some next)
    (second : next.pass t = some final) : scan.pass (s ++ t) = some final := by
  induction s generalizing scan with
  | nil =>
      cases first
      exact second
  | cons c s ih =>
      rw [pass] at first
      split at first
      · cases first
      · rename_i inside
        rw [List.cons_append, pass, if_neg inside]
        exact ih first

end CommaScan

/-- The scan passes over the text as over a unit: no comma of it divides, and nothing is open at its
end. -/
def PassedOver (t : Text) : Prop := CommaScan.start.pass t = some .start

instance (t : Text) : Decidable (PassedOver t) := inferInstanceAs (Decidable (_ = _))

/-! ### What is passed over -/

def isOpening (c : Char) : Bool := c = '(' || c = '['

def isClosing (c : Char) : Bool := c = ')' || c = ']'

inductive InString (quote : Char) : Text → Prop where
  | nil : InString quote []
  | character {c : Char} {t : Text} (inside : c ≠ quote) (unescaped : c ≠ '\\')
      (more : InString quote t) : InString quote (c :: t)
  | escaped (c : Char) {t : Text} (more : InString quote t) : InString quote ('\\' :: c :: t)

/-- Every string and bracket is closed, with a bracket of either kind, and every comma is escaped or
in a string or, unless the text itself is within brackets, in brackets. A closing bracket with
nothing to close is passed over. -/
inductive Enclosed : Bool → Text → Prop where
  | nil {within : Bool} : Enclosed within []
  | character {within : Bool} {c : Char} {t : Text} (unescaped : c ≠ '\\')
      (unquoted : isQuote c = false) (unopened : isOpening c = false)
      (unclosed : isClosing c = false) (inside : c = ',' → within = true)
      (more : Enclosed within t) : Enclosed within (c :: t)
  | escaped {within : Bool} (c : Char) {t : Text} (more : Enclosed within t) :
      Enclosed within ('\\' :: c :: t)
  | quoted {within : Bool} {quote : Char} {inner t : Text} (mark : isQuote quote = true)
      (inside : InString quote inner) (more : Enclosed within t) :
      Enclosed within (quote :: (inner ++ quote :: t))
  | bracketed {within : Bool} {opening closing : Char} {inner t : Text}
      (opens : isOpening opening = true) (closes : isClosing closing = true)
      (inside : Enclosed true inner) (more : Enclosed within t) :
      Enclosed within (opening :: (inner ++ closing :: t))
  | stray {c : Char} {t : Text} (closes : isClosing c = true) (more : Enclosed false t) :
      Enclosed false (c :: t)

namespace CommaScan

def atDepth (depth : Nat) : CommaScan := ⟨none, depth, false⟩

def inQuotes (quote : Char) (depth : Nat) : CommaScan := ⟨some quote, depth, false⟩

variable {scan : CommaScan} {c : Char} {depth : Nat}

theorem pass_of_step {next : CommaScan} (inside : scan.divides c = false)
    (stepped : scan.step c = next) (t : Text) : scan.pass (c :: t) = next.pass t := by
  rw [pass, inside, stepped]
  rfl

theorem pass_escaped (c : Char) (plain : scan.escaped = false) (t : Text) :
    scan.pass ('\\' :: c :: t) = scan.pass t := by
  obtain ⟨quote?, depth, escaped⟩ := scan
  cases plain
  rw [pass_of_step (by simp [divides]) rfl, pass_of_step (by simp [divides, step]) rfl]
  rfl

theorem pass_character (unescaped : c ≠ '\\') (unquoted : isQuote c = false)
    (unopened : isOpening c = false) (unclosed : isClosing c = false)
    (inside : c = ',' → 0 < depth) (t : Text) :
    (atDepth depth).pass (c :: t) = (atDepth depth).pass t := by
  apply pass_of_step
  · by_cases comma : c = ','
    · simp [divides, atDepth, Nat.pos_iff_ne_zero.mp (inside comma)]
    · simp [divides, comma]
  · simp only [step, atDepth, Bool.false_eq_true, if_false, if_neg unescaped]
    split
    · cases unquoted
    · cases unquoted
    · cases unopened
    · cases unopened
    · cases unclosed
    · cases unclosed
    · rfl

theorem pass_quote (mark : isQuote c = true) (t : Text) :
    (atDepth depth).pass (c :: t) = (inQuotes c depth).pass t := by
  simp only [isQuote, Bool.or_eq_true, decide_eq_true_eq] at mark
  rcases mark with rfl | rfl <;> exact pass_of_step rfl rfl t

theorem pass_opening (opens : isOpening c = true) (t : Text) :
    (atDepth depth).pass (c :: t) = (atDepth (depth + 1)).pass t := by
  simp only [isOpening, Bool.or_eq_true, decide_eq_true_eq] at opens
  rcases opens with rfl | rfl <;> exact pass_of_step rfl rfl t

theorem pass_closing (closes : isClosing c = true) (t : Text) :
    (atDepth depth).pass (c :: t) = (atDepth (depth - 1)).pass t := by
  simp only [isClosing, Bool.or_eq_true, decide_eq_true_eq] at closes
  rcases closes with rfl | rfl <;> exact pass_of_step rfl rfl t

theorem pass_inQuotes {quote : Char} (inside : c ≠ quote) (unescaped : c ≠ '\\') (t : Text) :
    (inQuotes quote depth).pass (c :: t) = (inQuotes quote depth).pass t := by
  apply pass_of_step
  · simp [divides, inQuotes]
  · simp [step, inQuotes, inside, unescaped]

theorem pass_unquote {quote : Char} (mark : isQuote quote = true) (t : Text) :
    (inQuotes quote depth).pass (quote :: t) = (atDepth depth).pass t := by
  simp only [isQuote, Bool.or_eq_true, decide_eq_true_eq] at mark
  rcases mark with rfl | rfl <;> exact pass_of_step rfl rfl t

theorem pass_inString {quote : Char} {inner : Text} (mark : isQuote quote = true)
    (inside : InString quote inner) (t : Text) :
    (inQuotes quote depth).pass (inner ++ quote :: t) = (atDepth depth).pass t := by
  induction inside with
  | nil => exact pass_unquote mark t
  | character inside unescaped _ ih =>
      rw [List.cons_append, pass_inQuotes inside unescaped, ih]
  | escaped c _ ih => rw [List.cons_append, List.cons_append, pass_escaped c rfl, ih]

theorem pass_enclosed {within : Bool} {t : Text} (enclosed : Enclosed within t)
    (same : within = decide (0 < depth)) (rest : Text) :
    (atDepth depth).pass (t ++ rest) = (atDepth depth).pass rest := by
  induction enclosed generalizing depth rest with
  | nil => rfl
  | character unescaped unquoted unopened unclosed inside _ ih =>
      rw [List.cons_append, pass_character unescaped unquoted unopened unclosed, ih same]
      intro comma
      simpa [inside comma] using same
  | escaped c _ ih => rw [List.cons_append, List.cons_append, pass_escaped c rfl, ih same]
  | quoted mark inside _ ih =>
      rw [List.cons_append, List.append_assoc, List.cons_append, pass_quote mark,
        pass_inString mark inside, ih same]
  | bracketed opens closes _ _ ihInside ih =>
      rw [List.cons_append, List.append_assoc, List.cons_append, pass_opening opens,
        ihInside (by simp), pass_closing closes, Nat.add_sub_cancel, ih same]
  | stray closes _ ih =>
      have outermost : depth = 0 := by simpa using same
      rw [List.cons_append, pass_closing closes, outermost]
      exact ih (by simp) rest

theorem exists_string_of_pass {quote : Char} (mark : isQuote quote = true) {t : Text}
    (passed : (inQuotes quote depth).pass t = some start) :
    ∃ inner rest, t = inner ++ quote :: rest ∧ InString quote inner ∧
      (atDepth depth).pass rest = some start := by
  match t with
  | [] => cases passed
  | c :: rest =>
      by_cases closes : c = quote
      · subst closes
        rw [pass_unquote mark] at passed
        exact ⟨[], rest, rfl, .nil, passed⟩
      by_cases escapes : c = '\\'
      · subst escapes
        match rest with
        | [] => cases passed
        | d :: rest =>
            rw [pass_escaped d rfl] at passed
            obtain ⟨inner, after, rfl, inside, more⟩ := exists_string_of_pass mark passed
            exact ⟨'\\' :: d :: inner, after, rfl, .escaped d inside, more⟩
      · rw [pass_inQuotes closes escapes] at passed
        obtain ⟨inner, after, rfl, inside, more⟩ := exists_string_of_pass mark passed
        exact ⟨c :: inner, after, rfl, .character closes escapes inside, more⟩

/-- A text that closes so many brackets more than it opens. -/
inductive Closes : Nat → Text → Prop where
  | none {t : Text} (enclosed : Enclosed false t) : Closes 0 t
  | one {depth : Nat} {inner t : Text} {closing : Char} (inside : Enclosed true inner)
      (closes : isClosing closing = true) (more : Closes depth t) :
      Closes (depth + 1) (inner ++ closing :: t)

theorem Closes.prepend (unit : Text) {t : Text} (closes : Closes depth t)
    (add : ∀ t, Enclosed (decide (0 < depth)) t → Enclosed (decide (0 < depth)) (unit ++ t)) :
    Closes depth (unit ++ t) := by
  cases closes with
  | none enclosed => exact .none (add _ enclosed)
  | one inside closing more =>
      rw [← List.append_assoc]
      exact .one (by simpa using add _ (by simpa using inside)) closing more

theorem closes_of_pass {depth : Nat} {t : Text} (passed : (atDepth depth).pass t = some start) :
    Closes depth t := by
  -- Each case takes one unit off the front, and the string in it may be of any length.
  induction length : t.length using Nat.strong_induction_on generalizing depth t with
  | _ size ih =>
  subst length
  cases t with
  | nil =>
      cases passed
      exact .none .nil
  | cons c rest =>
      by_cases escapes : c = '\\'
      · subst escapes
        cases rest with
        | nil => cases passed
        | cons d rest =>
            rw [pass_escaped d rfl] at passed
            have shorter : rest.length < ('\\' :: d :: rest).length := by
              simp only [List.length_cons]
              omega
            have more : Closes depth rest := ih _ shorter passed rfl
            exact .prepend ['\\', d] more fun _ => .escaped d
      by_cases mark : isQuote c = true
      · rw [pass_quote mark] at passed
        obtain ⟨inner, after, rfl, inside, following⟩ := exists_string_of_pass mark passed
        have shorter : after.length < (c :: (inner ++ c :: after)).length := by
          simp only [List.length_cons, List.length_append]
          omega
        have more : Closes depth after := ih _ shorter following rfl
        have closes := more.prepend (c :: (inner ++ [c])) fun _ enclosed => by
          simpa using Enclosed.quoted mark inside enclosed
        simpa using closes
      by_cases opens : isOpening c = true
      · rw [pass_opening opens] at passed
        have more : Closes (depth + 1) rest := ih _ (by simp) passed rfl
        cases more with
        | one inside closing more =>
            rename_i inner after closed
            have closes := more.prepend (c :: (inner ++ [closed])) fun _ enclosed => by
              simpa using Enclosed.bracketed opens closing inside enclosed
            simpa using closes
      by_cases closing : isClosing c = true
      · rw [pass_closing closing] at passed
        have more : Closes (depth - 1) rest := ih _ (by simp) passed rfl
        -- Without an open bracket the scan stays where it is, as if the mark were not there.
        cases depth with
        | zero =>
            cases more with
            | none enclosed => exact .none (.stray closing enclosed)
        | succ depth => exact .one .nil closing more
      · simp only [Bool.not_eq_true] at mark opens closing
        have within : c = ',' → 0 < depth := by
          rintro rfl
          cases depth with
          | zero => cases passed
          | succ depth => exact Nat.succ_pos depth
        rw [pass_character escapes mark opens closing within] at passed
        have more : Closes depth rest := ih _ (by simp) passed rfl
        exact more.prepend [c] fun _ enclosed =>
          .character escapes mark opens closing (fun comma => by simpa using within comma) enclosed

end CommaScan

/-- The scan passes over just the texts in which everything is closed and every comma enclosed. -/
theorem passedOver_iff_enclosed {t : Text} : PassedOver t ↔ Enclosed false t := by
  constructor
  · intro passed
    cases CommaScan.closes_of_pass passed with
    | none enclosed => exact enclosed
  · intro enclosed
    have passed : (CommaScan.atDepth 0).pass (t ++ []) = (CommaScan.atDepth 0).pass [] :=
      CommaScan.pass_enclosed enclosed (by simp) []
    rw [List.append_nil] at passed
    exact passed

instance (t : Text) : Decidable (Enclosed false t) := decidable_of_iff _ passedOver_iff_enclosed

end ClassLint
