import ClassLint.Proofs.Lexing
import ClassLint.Proofs.Strides

/-! Where a bracket closes. A statement keeps the brackets that are open, of any kind, and takes
comments whole; a group in a selector counts brackets of one kind and knows no comments. The group
never goes on behind the bracket of the statement, and ends before it at brackets of its kind that
close nothing in the statement. -/

namespace ClassLint

/-! ### What a group passes over -/

/-- The inside of a group, as it counts: brackets of its kind in pairs, strings, and anything else,
comments and brackets of other kinds included. -/
inductive Grouped (bracket : Bracket) : Text → Prop where
  | nil : Grouped bracket []
  | character {c : Char} {t : Text} (unescaped : c ≠ '\\') (unquoted : isQuote c = false)
      (unopened : c ≠ bracket.opening) (unclosed : c ≠ bracket.closing)
      (more : Grouped bracket t) : Grouped bracket (c :: t)
  | escaped (c : Char) {t : Text} (more : Grouped bracket t) : Grouped bracket ('\\' :: c :: t)
  | quoted {quote : Char} {inner t : Text} (mark : isQuote quote = true)
      (inside : InString quote inner) (more : Grouped bracket t) :
      Grouped bracket (quote :: (inner ++ quote :: t))
  | bracketed {inner t : Text} (inside : Grouped bracket inner) (more : Grouped bracket t) :
      Grouped bracket (bracket.opening :: (inner ++ bracket.closing :: t))

def Bracket.PassesOver (bracket : Bracket) (t : Text) : Prop :=
  ∀ depth rest, takeGroup bracket none depth (t ++ rest) =
    (takeGroup bracket none depth rest).map (Taken.prepend t)

section Passing

variable {bracket : Bracket} {depth : Nat} {c quote : Char} {s t inner : Text}

theorem map_prepend_map {ε : Type} (s t : Text) (outcome : Except ε Taken) :
    (outcome.map (Taken.prepend t)).map (Taken.prepend s) =
      outcome.map (Taken.prepend (s ++ t)) := by
  cases outcome with
  | error e => rfl
  | ok taken => exact congrArg Except.ok (Taken.prepend_prepend s t taken)

theorem passesOver_nil : bracket.PassesOver [] := by
  intro depth rest
  rw [List.nil_append]
  cases takeGroup bracket none depth rest <;> rfl

theorem Bracket.PassesOver.append (first : bracket.PassesOver s) (second : bracket.PassesOver t) :
    bracket.PassesOver (s ++ t) := by
  intro depth rest
  rw [List.append_assoc, first, second, map_prepend_map]

theorem takeGroup_escaped (quote? : Option Char) (c : Char) (rest : Text) :
    takeGroup bracket quote? depth ('\\' :: c :: rest) =
      (takeGroup bracket quote? depth rest).map (Taken.prepend ['\\', c]) := by
  rw [takeGroup]
  rfl

theorem takeGroup_inQuotes (unescaped : c ≠ '\\') (rest : Text) :
    takeGroup bracket (some quote) depth (c :: rest) =
      (takeGroup bracket (if c = quote then none else some quote) depth rest).map
        (Taken.prepend [c]) := by
  rw [takeGroup.eq_def]
  split <;> simp_all
  rfl

theorem passesOver_character (unescaped : c ≠ '\\') (unquoted : isQuote c = false)
    (unopened : c ≠ bracket.opening) (unclosed : c ≠ bracket.closing) :
    bracket.PassesOver [c] := by
  intro depth rest
  rw [List.singleton_append, takeGroup_cons unescaped, unquoted, if_neg unopened,
    if_neg unclosed]
  rfl

theorem takeGroup_inString (mark : isQuote quote = true) (inside : InString quote inner)
    (rest : Text) : takeGroup bracket (some quote) depth (inner ++ quote :: rest) =
      (takeGroup bracket none depth rest).map (Taken.prepend (inner ++ [quote])) := by
  have unescaped : quote ≠ '\\' := by
    rintro rfl
    cases mark
  induction inside with
  | nil => rw [List.nil_append, takeGroup_inQuotes unescaped, if_pos rfl, List.nil_append]
  | @character c t inside escapes _ ih =>
      rw [List.cons_append, takeGroup_inQuotes escapes, if_neg inside, ih]
      exact map_prepend_map [c] (t ++ [quote]) _
  | @escaped c t _ ih =>
      rw [List.cons_append, List.cons_append, takeGroup_escaped, ih]
      exact map_prepend_map ['\\', c] (t ++ [quote]) _

theorem passesOver_quoted (mark : isQuote quote = true) (inside : InString quote inner) :
    bracket.PassesOver (quote :: (inner ++ [quote])) := by
  have unescaped : quote ≠ '\\' := by
    rintro rfl
    cases mark
  intro depth rest
  rw [List.cons_append, List.append_assoc, List.singleton_append, takeGroup_cons unescaped,
    if_pos mark, takeGroup_inString mark inside]
  exact map_prepend_map [quote] (inner ++ [quote]) _

theorem passesOver_escaped (c : Char) : bracket.PassesOver ['\\', c] :=
  fun _ rest => takeGroup_escaped none c rest

end Passing

section Brackets

variable {bracket : Bracket} (pair : Paired bracket.opening bracket.closing) {depth : Nat}
include pair

theorem isOpening_opening : isOpening bracket.opening = true := by
  rcases pair with ⟨opening, -⟩ | ⟨opening, -⟩ <;> rw [opening] <;> rfl

theorem isClosing_closing : isClosing bracket.closing = true := by
  rcases pair with ⟨-, closing⟩ | ⟨-, closing⟩ <;> rw [closing] <;> rfl

theorem opening_ne_closing : bracket.opening ≠ bracket.closing := by
  rcases pair with ⟨opening, closing⟩ | ⟨opening, closing⟩ <;> simp [opening, closing]

theorem closing_ne {c : Char} (unclosed : isClosing c = false) : bracket.closing ≠ c := by
  rintro rfl
  rw [isClosing_closing pair] at unclosed
  cases unclosed

theorem closedBy_iff {other : OpenBracket} {c : Char} (closes : other.closedBy c = true) :
    other.mark = bracket.opening ↔ c = bracket.closing := by
  rcases pair with ⟨opening, closing⟩ | ⟨opening, closing⟩ <;>
    rcases closedBy_cases closes with ⟨mark, rfl⟩ | ⟨mark, rfl⟩ | ⟨mark, rfl⟩ <;>
      simp [opening, closing, mark]

theorem takeGroup_opening (rest : Text) :
    takeGroup bracket none depth (bracket.opening :: rest) =
      (takeGroup bracket none (depth + 1) rest).map (Taken.prepend [bracket.opening]) := by
  have plain : bracket.opening ≠ '\\' ∧ isQuote bracket.opening = false := by
    rcases pair with ⟨opening, -⟩ | ⟨opening, -⟩ <;> simp [opening, isQuote]
  rw [takeGroup_cons plain.1, plain.2, if_pos rfl]
  rfl

theorem takeGroup_closing_eq (rest : Text) :
    takeGroup bracket none depth (bracket.closing :: rest) =
      match depth with
      | 0 => .ok ([bracket.closing], rest)
      | depth + 1 => (takeGroup bracket none depth rest).map (Taken.prepend [bracket.closing]) := by
  have plain : bracket.closing ≠ '\\' ∧ isQuote bracket.closing = false ∧
      bracket.closing ≠ bracket.opening := by
    rcases pair with ⟨opening, closing⟩ | ⟨opening, closing⟩ <;>
      simp [opening, closing, isQuote]
  rw [takeGroup_cons plain.1, plain.2.1, if_neg plain.2.2, if_pos rfl]
  rfl

theorem takeGroup_closing (rest : Text) :
    takeGroup bracket none (depth + 1) (bracket.closing :: rest) =
      (takeGroup bracket none depth rest).map (Taken.prepend [bracket.closing]) :=
  takeGroup_closing_eq pair rest

theorem takeGroup_last (rest : Text) :
    takeGroup bracket none 0 (bracket.closing :: rest) = .ok ([bracket.closing], rest) :=
  takeGroup_closing_eq pair rest

theorem passesOver_grouped {t : Text} (grouped : Grouped bracket t) : bracket.PassesOver t := by
  induction grouped with
  | nil => exact passesOver_nil
  | character unescaped unquoted unopened unclosed _ ih =>
      exact (passesOver_character unescaped unquoted unopened unclosed).append ih
  | escaped c _ ih => exact (passesOver_escaped c).append ih
  | quoted mark inside _ ih => simpa using (passesOver_quoted mark inside).append ih
  | @bracketed inner t _ _ ihInside ih =>
      intro depth rest
      have whole : bracket.opening :: (inner ++ bracket.closing :: t) ++ rest =
          bracket.opening :: (inner ++ bracket.closing :: (t ++ rest)) := by simp
      rw [whole, takeGroup_opening pair, ihInside, takeGroup_closing pair, ih]
      simp only [map_prepend_map, List.cons_append, List.nil_append]

theorem takeGroup_backslash :
    takeGroup bracket none depth ['\\'] =
      (takeGroup bracket none depth []).map (Taken.prepend ['\\']) := by
  rcases pair with ⟨opening, closing⟩ | ⟨opening, closing⟩ <;> cases depth <;>
    simp [takeGroup, opening, closing, isQuote, Except.map]

end Brackets

/-- What a group takes to its end: the rest of a string, and the rest of each bracket that is open
in it. -/
inductive Finishes (bracket : Bracket) : Option Char → Nat → Text → Prop where
  | last {inner : Text} (inside : Grouped bracket inner) :
      Finishes bracket none 0 (inner ++ [bracket.closing])
  | bracket {depth : Nat} {inner t : Text} (inside : Grouped bracket inner)
      (more : Finishes bracket none depth t) :
      Finishes bracket none (depth + 1) (inner ++ bracket.closing :: t)
  | string {quote : Char} {depth : Nat} {inner t : Text} (inside : InString quote inner)
      (more : Finishes bracket none depth t) :
      Finishes bracket (some quote) depth (inner ++ quote :: t)

theorem Finishes.prepend {bracket : Bracket} {depth : Nat} {t : Text} (unit : Text)
    (finishes : Finishes bracket none depth t)
    (add : ∀ t, Grouped bracket t → Grouped bracket (unit ++ t)) :
    Finishes bracket none depth (unit ++ t) := by
  cases finishes with
  | last inside =>
      rw [← List.append_assoc]
      exact .last (add _ inside)
  | bracket inside more =>
      rw [← List.append_assoc]
      exact .bracket (add _ inside) more

theorem finishes_of_takeGroup {bracket : Bracket} {quote? : Option Char} {depth : Nat} {t : Text}
    {taken : Taken} (read : takeGroup bracket quote? depth t = .ok taken) :
    Finishes bracket quote? depth taken.1 := by
  fun_induction takeGroup bracket quote? depth t generalizing taken
  case case1 => cases read
  case case2 => cases read
  case case3 quote? _ c _ ih =>
    obtain ⟨⟨later, after⟩, tail, rfl⟩ := exists_of_map_eq_ok read
    cases quote? with
    | none => exact (ih tail).prepend ['\\', c] fun _ => .escaped c
    | some quote =>
        cases ih tail with
        | string inside more => exact .string (.escaped c inside) more
  case case4 quote _ c _ alone ih =>
    obtain ⟨⟨later, after⟩, tail, rfl⟩ := exists_of_map_eq_ok read
    have finishes := ih tail
    by_cases closes : c = quote
    · rw [if_pos closes] at finishes
      subst closes
      exact .string .nil finishes
    · rw [if_neg closes] at finishes
      cases finishes with
      | string inside more =>
          -- A backslash that escapes nothing would leave the group open.
          exact .string (.character closes (unescaped_of_takeGroup alone tail) inside) more
  case case5 c _ _ mark ih =>
    obtain ⟨⟨later, after⟩, tail, rfl⟩ := exists_of_map_eq_ok read
    cases ih tail with
    | @string _ _ inner t inside more =>
        have whole := more.prepend (c :: (inner ++ [c])) fun _ grouped => by
          simpa using Grouped.quoted mark inside grouped
        simpa [Taken.push] using whole
  case case6 _ _ ih =>
    obtain ⟨⟨later, after⟩, tail, rfl⟩ := exists_of_map_eq_ok read
    cases ih tail with
    | @bracket _ inner t inside more =>
        have whole := more.prepend (bracket.opening :: (inner ++ [bracket.closing]))
          fun _ grouped => by simpa using Grouped.bracketed inside grouped
        simpa [Taken.push] using whole
  case case7 =>
    cases read
    exact .last .nil
  case case8 ih =>
    obtain ⟨⟨later, after⟩, tail, rfl⟩ := exists_of_map_eq_ok read
    exact .bracket .nil (ih tail)
  case case9 c _ alone unquoted unopened unclosed ih =>
    obtain ⟨⟨later, after⟩, tail, rfl⟩ := exists_of_map_eq_ok read
    have plain := unescaped_of_takeGroup alone tail
    exact (ih tail).prepend [c] fun _ =>
      .character plain (by simpa using unquoted) unopened unclosed

/-! ### The group of a statement -/

/-- The strides up to the first behind which no bracket is open. -/
def untilClosed : List Stride → Option (List Stride)
  | [] => none
  | stride :: more =>
    if stride.step.brackets.isEmpty then some [stride] else (untilClosed more).map (stride :: ·)

def passed (steps : List Stride) : Text := steps.flatMap fun stride => stride.step.taken

def Stride.isComment (stride : Stride) : Bool := stride.step.taken.take 2 == ['/', '*']

/-- A closing bracket while the last bracket that is open is of another kind. -/
def Stride.Strays (bracket : Bracket) (stride : Stride) : Prop :=
  stride.step.taken = [bracket.closing] ∧ closesLast stride.brackets bracket.closing = false

instance (bracket : Bracket) (stride : Stride) : Decidable (stride.Strays bracket) :=
  inferInstanceAs (Decidable (_ ∧ _))

def Bracket.countIn (bracket : Bracket) (brackets : List OpenBracket) : Nat :=
  brackets.countP fun other => other.mark = bracket.opening

/-- What a stride inside a bracket of the group's kind is to the group. -/
inductive Counted (bracket : Bracket) (inner : List OpenBracket) (outer : OpenBracket)
    (step : Step) : Prop where
  | passed (next : List OpenBracket) (opened : step.brackets = next ++ [outer])
      (count : bracket.countIn next = bracket.countIn inner)
      (whole : ∀ depth, takeGroup bracket none depth (step.taken ++ step.rest) =
        (takeGroup bracket none depth step.rest).map (Taken.prepend step.taken))
      (other : step.taken ≠ [bracket.closing])
  | opens (next : List OpenBracket) (opened : step.brackets = next ++ [outer])
      (count : bracket.countIn next = bracket.countIn inner + 1)
      (taken : step.taken = [bracket.opening])
  | closes (opened : step.brackets = (inner ++ [outer]).tail)
      (taken : step.taken = [bracket.closing])
      (last : closesLast (inner ++ [outer]) bracket.closing = true)
  | strays (opened : step.brackets = inner ++ [outer]) (taken : step.taken = [bracket.closing])
      (last : closesLast (inner ++ [outer]) bracket.closing = false)

theorem Quotable.inString {quote : Char} {t : Text} (inside : Quotable quote t) :
    InString quote t := by
  induction inside with
  | nil => exact .nil
  | character inside unescaped _ _ ih => exact .character inside unescaped ih
  | escaped c _ ih => exact .escaped c ih

theorem mark_of_closesLast {brackets : List OpenBracket} {c : Char}
    (closes : closesLast brackets c = true) : c = ')' ∨ c = ']' ∨ c = '}' := by
  cases brackets with
  | nil => cases closes
  | cons last brackets =>
      rcases closedBy_cases closes with ⟨-, mark⟩ | ⟨-, mark⟩ | ⟨-, mark⟩ <;> simp [mark]

theorem counted_of_advances {bracket : Bracket} (pair : Paired bracket.opening bracket.closing)
    {inner : List OpenBracket} {outer : OpenBracket} (kind : outer.mark = bracket.opening)
    {position : Position} {t : Text} {step : Step}
    (moves : Advances .css (inner ++ [outer]) position t step)
    (comment : Stride.isComment ⟨inner ++ [outer], step⟩ = true → Grouped bracket step.taken) :
    Counted bracket inner outer step := by
  cases moves with
  | @quoted quote body mark inside rest =>
      refine .passed inner rfl rfl ?_ (by simp)
      exact fun depth => passesOver_quoted mark inside.inString depth rest
  | commented body rest =>
      refine .passed inner rfl rfl ?_ (by simp)
      exact fun depth => passesOver_grouped pair (comment rfl) depth rest
  | escaped c rest =>
      refine .passed inner rfl rfl ?_ (by simp)
      exact fun depth => passesOver_escaped c depth rest
  -- The other dialect has neither of these.
  | dropped scss => cases scss
  | interpolation scss rest => cases scss
  | @opening c opens rest =>
      by_cases own : c = bracket.opening
      · subst own
        exact .opens (_ :: inner) rfl (by simp [Bracket.countIn]) rfl
      · have plain : c ≠ '\\' ∧ isQuote c = false ∧ isClosing c = false := by
          simp only [isOpening, Bool.or_eq_true, decide_eq_true_eq] at opens
          rcases opens with rfl | rfl <;> decide
        have other := closing_ne pair plain.2.2
        refine .passed (_ :: inner) rfl (by simp [Bracket.countIn, own]) ?_ (by simp [other.symm])
        exact fun depth => passesOver_character plain.1 plain.2.1 own other.symm depth rest
  | @closing c closes rest =>
      by_cases own : c = bracket.closing
      · subst own
        exact .closes rfl rfl closes
      · have plain : c ≠ '\\' ∧ isQuote c = false ∧ isOpening c = false := by
          rcases mark_of_closesLast closes with rfl | rfl | rfl <;> decide
        cases inner with
        | nil => exact absurd ((closedBy_iff pair closes).mp kind) own
        | cons last inner =>
            have unopened : last.mark ≠ bracket.opening := fun same =>
              own ((closedBy_iff pair closes).mp same)
            refine .passed inner rfl (by simp [Bracket.countIn, unopened]) ?_ (by simp [own])
            have other : c ≠ bracket.opening := by
              rintro rfl
              simp [isOpening_opening pair] at plain
            exact fun depth => passesOver_character plain.1 plain.2.1 other own depth rest
  | @character c rest unquoted unopened unclosed unescaped =>
      by_cases own : c = bracket.closing
      · subst own
        exact .strays rfl rfl unclosed
      · have unopening : c ≠ bracket.opening := by
          rintro rfl
          rw [isOpening_opening pair] at unopened
          cases unopened
        refine .passed inner rfl rfl ?_ (by simp [own])
        intro depth
        by_cases escapes : c = '\\'
        · subst escapes
          rw [unescaped rfl]
          exact takeGroup_backslash pair
        · exact passesOver_character escapes unquoted unopening own depth rest

/-- The group closes, not behind the given strides, and with the last of them just if it lost no
bracket before and none of them strays. -/
def Bracket.EndsIn (bracket : Bracket) (depth lost : Nat) (t : Text) (group : List Stride) :
    Prop :=
  ∃ taken, takeGroup bracket none depth t = .ok taken ∧ taken.1 <+: passed group ∧
    (taken.1 = passed group ↔ lost = 0 ∧ ∀ stride ∈ group, ¬stride.Strays bracket)

section Ending

variable {bracket : Bracket} {depth next lost found : Nat} {t rest : Text} {stride : Stride}
  {more group : List Stride}

theorem Bracket.EndsIn.cons (ends : bracket.EndsIn next found rest more)
    (goesOn : takeGroup bracket none depth t =
      (takeGroup bracket none next rest).map (Taken.prepend stride.step.taken))
    (same : found = 0 ↔ lost = 0 ∧ ¬stride.Strays bracket) :
    bracket.EndsIn depth lost t (stride :: more) := by
  obtain ⟨taken, read, inside, whole⟩ := ends
  refine ⟨taken.prepend stride.step.taken, by rw [goesOn, read]; rfl, ?_, ?_⟩
  · exact (List.prefix_append_right_inj _).mpr inside
  · rw [List.forall_mem_cons, ← and_assoc, ← same, ← whole]
    exact List.append_right_inj _

theorem Bracket.EndsIn.opening (pair : Paired bracket.opening bracket.closing)
    (ends : bracket.EndsIn (depth + 1) lost rest more)
    (taken : stride.step.taken = [bracket.opening]) :
    bracket.EndsIn depth lost (bracket.opening :: rest) (stride :: more) := by
  refine ends.cons ?_ (by simp [Stride.Strays, taken, opening_ne_closing pair])
  rw [taken]
  exact takeGroup_opening pair rest

theorem Bracket.EndsIn.closing (pair : Paired bracket.opening bracket.closing)
    (ends : bracket.EndsIn depth found rest more) (taken : stride.step.taken = [bracket.closing])
    (same : found = 0 ↔ lost = 0 ∧ ¬stride.Strays bracket) :
    bracket.EndsIn (depth + 1) lost (bracket.closing :: rest) (stride :: more) := by
  refine ends.cons ?_ same
  rw [taken]
  exact takeGroup_closing pair rest

theorem endsIn_last (pair : Paired bracket.opening bracket.closing)
    (taken : stride.step.taken = [bracket.closing]) (keeps : ¬stride.Strays bracket) :
    bracket.EndsIn 0 0 (bracket.closing :: rest) [stride] := by
  refine ⟨([bracket.closing], rest), takeGroup_last pair rest, ?_, ?_⟩
  · simp [passed, taken]
  · simp [passed, taken, keeps]

theorem endsIn_early (pair : Paired bracket.opening bracket.closing)
    (taken : stride.step.taken = [bracket.closing]) (goesOn : passed more ≠ [])
    (early : lost = 0 → stride.Strays bracket) :
    bracket.EndsIn 0 lost (bracket.closing :: rest) (stride :: more) := by
  have whole : passed (stride :: more) = bracket.closing :: passed more := by
    simp [passed, taken]
  refine ⟨([bracket.closing], rest), takeGroup_last pair rest, ?_, ?_⟩
  · rw [whole]
    exact ⟨passed more, rfl⟩
  · rw [whole, List.forall_mem_cons]
    constructor
    · exact fun same => absurd (List.cons.inj same).2.symm goesOn
    · exact fun ⟨all, keeps, _⟩ => absurd (early all) keeps

theorem exists_of_untilClosed (closed : untilClosed (stride :: more) = some group) :
    ∃ after, group = stride :: after ∧
      (stride.step.brackets = [] ∧ after = [] ∨
        stride.step.brackets ≠ [] ∧ untilClosed more = some after) := by
  rw [untilClosed] at closed
  split at closed
  · rename_i ended
    cases closed
    exact ⟨[], rfl, .inl ⟨List.isEmpty_iff.mp ended, rfl⟩⟩
  · rename_i opens
    obtain ⟨after, found, rfl⟩ := Option.map_eq_some_iff.mp closed
    exact ⟨after, rfl, .inr ⟨by simpa using opens, found⟩⟩

theorem passed_ne_nil {dialect : Dialect} {brackets : List OpenBracket} {position : Position}
    (closed : untilClosed (strides dialect brackets position t) = some group) :
    passed group ≠ [] := by
  fun_induction strides dialect brackets position t
  case case1 => cases closed
  case case2 => cases closed
  case case3 => cases closed
  case case4 found _ _ _ =>
    obtain ⟨after, rfl, _⟩ := exists_of_untilClosed closed
    simp [passed, nextStep_taken_ne_nil found]

end Ending

/-- Inside a bracket of its kind a group knows `depth` of the brackets that are open in it, and has
lost the others: it took the closing brackets that stray for theirs. -/
theorem endsIn_of_strides {bracket : Bracket} (pair : Paired bracket.opening bracket.closing)
    {outer : OpenBracket} (kind : outer.mark = bracket.opening) {brackets inner : List OpenBracket}
    {position : Position} {t : Text} {group : List Stride} {depth lost : Nat}
    (opened : brackets = inner ++ [outer]) (count : bracket.countIn inner = depth + lost)
    (closed : untilClosed (strides .css brackets position t) = some group)
    (comments : ∀ stride ∈ group, stride.isComment = true → Grouped bracket stride.step.taken) :
    bracket.EndsIn depth lost t group := by
  fun_induction strides .css brackets position t generalizing inner group depth lost
  case case1 => cases closed
  case case2 => cases closed
  case case3 => cases closed
  case case4 brackets position c rest _ step found _ _ ih =>
    subst opened
    obtain ⟨more, rfl, ended⟩ := exists_of_untilClosed closed
    obtain ⟨comment, others⟩ := List.forall_mem_cons.mp comments
    have goesOn {next : List OpenBracket} (opened : step.brackets = next ++ [outer]) :
        untilClosed (strides .css step.brackets (position.advance step.taken) step.rest) =
          some more := by
      obtain ⟨none, -⟩ | ⟨-, found⟩ := ended
      · simp [opened] at none
      · exact found
    have counted := counted_of_advances pair kind (advances_of_nextStep found) comment
    rw [← nextStep_append found]
    cases counted with
    | passed next opened same whole other =>
        have ends := ih opened (same.trans count) (goesOn opened) others
        exact ends.cons (whole depth) (by simp [Stride.Strays, other])
    | opens next opened same taken =>
        have ends : bracket.EndsIn (depth + 1) lost step.rest more :=
          ih opened (by omega) (goesOn opened) others
        rw [taken]
        exact ends.opening pair taken
    | closes opened taken last =>
        have keeps : ¬Stride.Strays bracket ⟨inner ++ [outer], step⟩ := by
          simp [Stride.Strays, last]
        rw [taken]
        cases inner with
        | nil =>
            have none : 0 = depth + lost := count
            obtain ⟨rfl, rfl⟩ : depth = 0 ∧ lost = 0 := by omega
            obtain ⟨-, rfl⟩ | ⟨opens, -⟩ := ended
            · exact endsIn_last pair taken keeps
            · exact absurd opened opens
        | cons own inner =>
            have same : own.mark = bracket.opening := (closedBy_iff pair last).mpr rfl
            have fewer : bracket.countIn inner + 1 = depth + lost := by
              simpa [Bracket.countIn, same] using count
            cases depth with
            | zero =>
                refine endsIn_early pair taken (passed_ne_nil (goesOn opened)) ?_
                omega
            | succ depth =>
                have ends : bracket.EndsIn depth lost step.rest more :=
                  ih opened (by omega) (goesOn opened) others
                exact ends.closing pair taken ⟨fun none => ⟨none, keeps⟩, And.left⟩
    | strays opened taken last =>
        have strays : Stride.Strays bracket ⟨inner ++ [outer], step⟩ := ⟨taken, last⟩
        rw [taken]
        cases depth with
        | zero => exact endsIn_early pair taken (passed_ne_nil (goesOn opened)) fun _ => strays
        | succ depth =>
            -- The group takes the bracket for the one it would close, which stays open.
            have ends : bracket.EndsIn depth (lost + 1) step.rest more :=
              ih opened (by omega) (goesOn opened) others
            exact ends.closing pair taken (by simp [strays])

theorem passed_isPrefix {dialect : Dialect} {brackets : List OpenBracket} {position : Position}
    {t : Text} {group : List Stride}
    (closed : untilClosed (strides dialect brackets position t) = some group) :
    passed group <+: t := by
  fun_induction strides dialect brackets position t generalizing group
  case case1 => cases closed
  case case2 => cases closed
  case case3 => cases closed
  case case4 step found _ _ ih =>
    rw [← nextStep_append found]
    obtain ⟨after, rfl, ⟨_, rfl⟩ | ⟨_, later⟩⟩ := exists_of_untilClosed closed
    · simp [passed]
    · exact (List.prefix_append_right_inj step.taken).mpr (ih later)

/-- The group behind a bracket is, with the bracket, that part of a statement. -/
def Bracket.Takes (bracket : Bracket) (rest : Text) (group : List Stride) : Prop :=
  ∃ taken, takeGroup bracket none 0 rest = .ok taken ∧ bracket.opening :: taken.1 = passed group

theorem takes_iff {bracket : Bracket} (pair : Paired bracket.opening bracket.closing) {rest : Text}
    {group : List Stride} (start : passed group <+: bracket.opening :: rest) :
    bracket.Takes rest group ↔
      ∃ inner, passed group = bracket.opening :: (inner ++ [bracket.closing]) ∧
        Grouped bracket inner := by
  constructor
  · rintro ⟨⟨taken, after⟩, read, whole⟩
    cases finishes_of_takeGroup read with
    | last inside => exact ⟨_, whole.symm, inside⟩
  · rintro ⟨inner, whole, inside⟩
    rw [whole, List.cons_prefix_cons] at start
    obtain ⟨after, rfl⟩ := start.2
    refine ⟨(inner ++ [bracket.closing], after), ?_, whole.symm⟩
    rw [List.append_assoc, passesOver_grouped pair inside, List.singleton_append,
      takeGroup_last pair]
    rfl

/-- The group behind a bracket is the part of a statement in that bracket exactly if the inside of
that part is grouped. Where its comments are, the group closes and does not go on behind that part,
and it is that part just if no bracket strays in it. -/
theorem takeGroup_untilClosed {bracket : Bracket}
    (pair : Paired bracket.opening bracket.closing) {position : Position} {rest : Text}
    {group : List Stride}
    (closed : untilClosed (strides .css [] position (bracket.opening :: rest)) = some group) :
    passed group <+: bracket.opening :: rest ∧
      (bracket.Takes rest group ↔
        ∃ inner, passed group = bracket.opening :: (inner ++ [bracket.closing]) ∧
          Grouped bracket inner) ∧
      ((∀ stride ∈ group, stride.isComment = true → Grouped bracket stride.step.taken) →
        ∃ taken, takeGroup bracket none 0 rest = .ok taken ∧
          bracket.opening :: taken.1 <+: passed group ∧
          (bracket.opening :: taken.1 = passed group ↔
            ∀ stride ∈ group, ¬stride.Strays bracket)) := by
  have start := passed_isPrefix closed
  refine ⟨start, takes_iff pair start, ?_⟩
  intro comments
  have inside : ¬(([] : List OpenBracket).isEmpty && endsStatement bracket.opening) = true := by
    rcases pair with ⟨opening, -⟩ | ⟨opening, -⟩ <;> simp [opening, endsStatement]
  rw [strides_of_step inside (nextStep_opening pair rest)] at closed
  obtain ⟨more, rfl, ⟨none, -⟩ | ⟨-, found⟩⟩ := exists_of_untilClosed closed
  · cases none
  · obtain ⟨taken, read, within, whole⟩ : bracket.EndsIn 0 0 rest more :=
      endsIn_of_strides pair rfl (List.nil_append _).symm rfl found
        (List.forall_mem_cons.mp comments).2
    refine ⟨taken, read, List.cons_prefix_cons.mpr ⟨rfl, within⟩, ?_⟩
    rw [List.forall_mem_cons]
    simpa [passed, Stride.Strays, opening_ne_closing pair] using whole

/-- Brackets of both kinds, a comment with a pair of them, and closing brackets that count for
nothing: in a string, escaped, and of the other kind. -/
def mixedRest : Text := "[x](y)/*(z)*/'q)'\\)w])/t"

def mixedGroup : List Stride :=
  (untilClosed (strides .css [] .start ('(' :: mixedRest))).getD []

theorem takeGroup_untilClosed_mixed :
    untilClosed (strides .css [] .start ('(' :: mixedRest)) = some mixedGroup ∧
      (∀ stride ∈ mixedGroup, stride.isComment = true →
        Grouped Bracket.round stride.step.taken) ∧
      ∃ taken, takeGroup .round none 0 mixedRest = .ok taken ∧
        '(' :: taken.1 = "([x](y)/*(z)*/'q)'\\)w])".toList := by
  have pair : Paired Bracket.round.opening Bracket.round.closing := .inl ⟨rfl, rfl⟩
  have closed : untilClosed (strides .css [] .start (Bracket.round.opening :: mixedRest)) =
      some mixedGroup := by
    decide +kernel
  have comments : ∀ stride ∈ mixedGroup, stride.isComment = true →
      Grouped Bracket.round stride.step.taken := by
    have only : ∀ stride ∈ mixedGroup, stride.isComment = true →
        stride.step.taken = "/*(z)*/".toList := by
      decide +kernel
    have plain {c : Char} (member : c ∈ ['/', '*', 'z']) {t : Text} (more : Grouped .round t) :
        Grouped .round (c :: t) := by
      simp only [List.mem_cons, List.not_mem_nil, or_false] at member
      rcases member with rfl | rfl | rfl <;>
        exact .character (by decide) (by decide) (by decide) (by decide) more
    have ending : Grouped .round ['*', '/'] := plain (by decide) (plain (by decide) .nil)
    intro stride member comment
    rw [only stride member comment]
    exact plain (by decide) (plain (by decide) (.bracketed (plain (by decide) .nil) ending))
  obtain ⟨taken, read, -, whole⟩ := (takeGroup_untilClosed pair closed).2.2 comments
  refine ⟨closed, comments, taken, read, ?_⟩
  exact (whole.mpr (by decide +kernel)).trans (by decide +kernel)

/-- The bracket in the comment closes the group, and nothing in the statement. -/
theorem takeGroup_not_untilClosed_comment :
    ¬∀ (bracket : Bracket) (position : Position) (rest : Text) (group : List Stride),
      Paired bracket.opening bracket.closing →
      untilClosed (strides .css [] position (bracket.opening :: rest)) = some group →
      bracket.Takes rest group := by
  intro agrees
  let group := (untilClosed (strides .css [] .start "(/*)*/.a)".toList)).getD []
  have closed : untilClosed (strides .css [] .start "(/*)*/.a)".toList) = some group := by
    decide +kernel
  obtain ⟨taken, read, whole⟩ := agrees .round .start "/*)*/.a)" group (.inl ⟨rfl, rfl⟩) closed
  have early : takeGroup .round none 0 "/*)*/.a)".toList = .ok ("/*)".toList, "*/.a)".toList) := by
    decide
  rw [early] at read
  cases read
  exact absurd whole (by decide +kernel)

end ClassLint
