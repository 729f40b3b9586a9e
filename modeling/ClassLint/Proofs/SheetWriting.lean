import ClassLint.Proofs.Letters
import ClassLint.Proofs.Rendering

/-! Stylesheets that are read back as they were written: trees of any depth whose texts are
balanced. -/

namespace ClassLint

/-! ### Balanced texts -/

/-- The characters that open, close or end something, or take the meaning of another. -/
def specialCharacters : Text := ['"', '\'', '\\', '/', ';', '{', '}', '[', ']', '(', ')']

def isOrdinary (c : Char) : Bool := !specialCharacters.contains c

inductive Quotable (quote : Char) : Text → Prop where
  | nil : Quotable quote []
  | character {c : Char} {t : Text} (inside : c ≠ quote) (unescaped : c ≠ '\\') (line : c ≠ '\n')
      (more : Quotable quote t) : Quotable quote (c :: t)
  | escaped (c : Char) {t : Text} (more : Quotable quote t) : Quotable quote ('\\' :: c :: t)

def Paired (opening closing : Char) : Prop :=
  opening = '(' ∧ closing = ')' ∨ opening = '[' ∧ closing = ']'

/-- Ordinary and escaped characters, strings, and brackets around the same. -/
inductive Nested : Text → Prop where
  | nil : Nested []
  | ordinary {c : Char} {t : Text} (plain : isOrdinary c = true) (more : Nested t) :
      Nested (c :: t)
  | escaped (c : Char) {t : Text} (more : Nested t) : Nested ('\\' :: c :: t)
  | quoted {quote : Char} {inner t : Text} (mark : quote = '"' ∨ quote = '\'')
      (inside : Quotable quote inner) (more : Nested t) : Nested (quote :: (inner ++ quote :: t))
  | bracketed {opening closing : Char} {inner t : Text}
      (pair : Paired opening closing) (inside : Nested inner) (more : Nested t) :
      Nested (opening :: (inner ++ closing :: t))

/-- Nested texts that can stand before a brace and next to blanks. -/
structure Balanced (t : Text) : Prop where
  nested : Nested t
  trimmed : Trimmed t
  ending : t.getLast? ≠ some '#'

theorem ne_of_isOrdinary {c d : Char} (plain : isOrdinary c = true)
    (special : isOrdinary d = false) : c ≠ d := by
  rintro rfl
  rw [special] at plain
  cases plain

theorem isOrdinary_of_predicate {p : Char → Bool} {c : Char} (holds : p c = true)
    (fails : (specialCharacters.all fun d => !p d) = true) : isOrdinary c = true := by
  rw [isOrdinary, Bool.not_eq_true', List.contains_eq_mem, decide_eq_false_iff_not]
  intro member
  simpa [holds] using List.all_eq_true.mp fails c member

theorem Nested.append {s t : Text} (first : Nested s) (second : Nested t) : Nested (s ++ t) := by
  induction first with
  | nil => exact second
  | ordinary plain _ ih => exact .ordinary plain ih
  | escaped c _ ih => exact .escaped c ih
  | quoted mark inside _ ih => simpa using Nested.quoted mark inside ih
  | bracketed pair inside _ _ ih => simpa using Nested.bracketed pair inside ih

theorem Nested.first {t : Text} (nested : Nested t) :
    ∀ c ∈ t.head?, isOrdinary c = true ∨ c ∈ ['\\', '"', '\'', '(', '['] := by
  cases nested with
  | nil => simp
  | ordinary plain more => simp [plain]
  | escaped c more => simp
  | quoted mark inside more => rcases mark with rfl | rfl <;> simp
  | bracketed pair inside more => rcases pair with ⟨rfl, rfl⟩ | ⟨rfl, rfl⟩ <;> simp

theorem Nested.first_ne {t : Text} (nested : Nested t) {d : Char} (special : isOrdinary d = false)
    (other : d ∉ ['\\', '"', '\'', '(', '[']) : t.head? ≠ some d := by
  intro same
  rcases nested.first d same with plain | member
  · exact ne_of_isOrdinary plain special rfl
  · exact other member

theorem nested_of_ordinary {t : Text} (plain : ∀ c ∈ t, isOrdinary c = true) : Nested t := by
  induction t with
  | nil => exact .nil
  | cons c t ih =>
      obtain ⟨first, others⟩ := List.forall_mem_cons.mp plain
      exact .ordinary first (ih others)

/-! ### Reading them -/

def Prelude.prepend (t : Text) (prelude : Prelude) : Prelude :=
  { prelude with text := t ++ prelude.text }

section Reading

variable {dialect : Dialect} {brackets : List OpenBracket} {position : Position} {c : Char}
  {rest : Text}

theorem readPrelude_of_step {step : Step} (inside : endsStatement c = false ∨ brackets ≠ [])
    (read : nextStep dialect brackets position c rest = .ok step) (kept : step.kept = true) :
    readPrelude dialect brackets position (c :: rest) =
      (readPrelude dialect step.brackets (position.advance step.taken) step.rest).map
        (Prelude.prepend step.taken) := by
  have goesOn : ¬(brackets.isEmpty && endsStatement c) = true := by
    rcases inside with inside | inside <;> simp [inside]
  rw [readPrelude, if_neg goesOn]
  split
  · rename_i error failed
    rw [failed] at read
    cases read
  · rename_i other found
    rw [found] at read
    cases read
    simp only [kept, if_true]
    rfl

theorem closesLast_ordinary (plain : isOrdinary c = true) : closesLast brackets c = false := by
  cases brackets with
  | nil => rfl
  | cons bracket brackets =>
      change bracket.closedBy c = false
      unfold OpenBracket.closedBy
      split
      · exact absurd plain (by decide)
      · exact absurd plain (by decide)
      · exact absurd plain (by decide)
      · rfl

theorem nextStep_ordinary (plain : isOrdinary c = true)
    (clear : c = '#' → rest.head? ≠ some '{') :
    nextStep dialect brackets position c rest = .ok ⟨[c], true, brackets, rest⟩ := by
  have other (d : Char) (special : isOrdinary d = false) : c ≠ d := ne_of_isOrdinary plain special
  have uninterpolated : ¬(c = '#' ∧ rest.head? = some '{') := fun ⟨mark, brace⟩ => clear mark brace
  unfold nextStep
  split
  · exact absurd rfl (other '"' (by decide))
  · exact absurd rfl (other '\'' (by decide))
  · exact absurd rfl (other '/' (by decide))
  · exact absurd rfl (other '\\' (by decide))
  · simp only [other '/' (by decide), other '(' (by decide), other '[' (by decide),
      closesLast_ordinary plain, decide_false, Bool.false_and, Bool.or_self, Bool.false_eq_true,
      if_false]
    rw [if_neg]
    simp only [Bool.and_eq_true, decide_eq_true_eq]
    exact fun ⟨opens, _⟩ => uninterpolated opens

theorem takeQuoted_quotable {quote : Char} {inner : Text} (mark : quote = '"' ∨ quote = '\'')
    (inside : Quotable quote inner) (rest : Text) :
    takeQuoted quote (inner ++ quote :: rest) = some (inner ++ [quote], rest) := by
  have unescaped : quote ≠ '\\' := by rcases mark with rfl | rfl <;> decide
  have line : quote ≠ '\n' := by rcases mark with rfl | rfl <;> decide
  induction inside with
  | nil => simp [takeQuoted, unescaped, line]
  | character inside unescaped line _ ih =>
      simp [takeQuoted, unescaped, line, inside, ih, Taken.push]
  | escaped c _ ih => simp [takeQuoted, ih, Taken.push]

theorem nextStep_quoted {quote : Char} {inner : Text} (mark : quote = '"' ∨ quote = '\'')
    (inside : Quotable quote inner) (rest : Text) :
    nextStep dialect brackets position quote (inner ++ quote :: rest) =
      .ok ⟨quote :: (inner ++ [quote]), true, brackets, rest⟩ := by
  have taken := takeQuoted_quotable mark inside rest
  rcases mark with rfl | rfl <;> simp only [nextStep, taken]

theorem nextStep_opening {opening closing : Char} (pair : Paired opening closing) (rest : Text) :
    nextStep dialect brackets position opening rest =
      .ok ⟨[opening], true, ⟨opening, position⟩ :: brackets, rest⟩ := by
  rcases pair with ⟨rfl, rfl⟩ | ⟨rfl, rfl⟩ <;> simp [nextStep]

theorem nextStep_closing {opening closing : Char} {start : Position}
    (pair : Paired opening closing) (rest : Text) :
    nextStep dialect (⟨opening, start⟩ :: brackets) position closing rest =
      .ok ⟨[closing], true, brackets, rest⟩ := by
  rcases pair with ⟨rfl, rfl⟩ | ⟨rfl, rfl⟩ <;>
    simp [nextStep, closesLast, OpenBracket.closedBy]

/-- No interpolation starts with the end of the one text and the start of the other. -/
def Clear (t rest : Text) : Prop := t.getLast? = some '#' → rest.head? ≠ some '{'

theorem Clear.of_append {s t rest : Text} (clear : Clear (s ++ t) rest) : Clear t rest := by
  intro last
  apply clear
  rw [List.getLast?_append, last]
  rfl

/-- The text is taken as it stands, before the given rest. -/
def TakenWhole (dialect : Dialect) (brackets : List OpenBracket) (position : Position)
    (t rest : Text) : Prop :=
  readPrelude dialect brackets position (t ++ rest) =
    (readPrelude dialect brackets (position.advance t) rest).map (Prelude.prepend t)

theorem takenWhole_append {s t : Text} (first : TakenWhole dialect brackets position s (t ++ rest))
    (second : TakenWhole dialect brackets (position.advance s) t rest) :
    TakenWhole dialect brackets position (s ++ t) rest := by
  rw [TakenWhole] at first second ⊢
  rw [List.append_assoc, first, second, Position.advance_append]
  cases readPrelude dialect brackets ((position.advance s).advance t) rest with
  | error error => rfl
  | ok prelude => simp [Except.map, Prelude.prepend]

theorem takenWhole_of_step {taken rest : Text} (inside : endsStatement c = false)
    (read : nextStep dialect brackets position c (taken ++ rest) =
      .ok ⟨c :: taken, true, brackets, rest⟩) :
    TakenWhole dialect brackets position (c :: taken) rest :=
  readPrelude_of_step (.inl inside) read rfl

theorem takenWhole_brackets {opening closing : Char} {inner : Text}
    (pair : Paired opening closing)
    (inside : TakenWhole dialect (⟨opening, position⟩ :: brackets) (position.advance [opening])
      inner (closing :: rest)) :
    TakenWhole dialect brackets position (opening :: (inner ++ [closing])) rest := by
  have opens : endsStatement opening = false := by
    rcases pair with ⟨rfl, rfl⟩ | ⟨rfl, rfl⟩ <;> decide
  have whole : opening :: (inner ++ [closing]) ++ rest = opening :: (inner ++ closing :: rest) := by
    simp
  have places : position.advance (opening :: (inner ++ [closing])) =
      ((position.advance [opening]).advance inner).advance [closing] := by
    rw [← Position.advance_append, ← Position.advance_append]
    rfl
  rw [TakenWhole] at inside ⊢
  rw [whole, places, readPrelude_of_step (.inl opens) (nextStep_opening pair _) rfl]
  simp only
  rw [inside, readPrelude_of_step (.inr (by simp)) (nextStep_closing pair rest) rfl]
  simp only
  cases readPrelude dialect brackets _ rest with
  | error error => rfl
  | ok prelude => simp [Except.map, Prelude.prepend]

theorem takenWhole_nested {t : Text} (nested : Nested t) (clear : Clear t rest) :
    TakenWhole dialect brackets position t rest := by
  induction nested generalizing brackets position rest with
  | nil =>
      rw [TakenWhole]
      cases read : readPrelude dialect brackets position rest with
      | error error => simp [Position.advance, read, Except.map]
      | ok prelude => simp [Position.advance, read, Except.map, Prelude.prepend]
  | @ordinary c t plain more ih =>
      have uninterpolated : c = '#' → (t ++ rest).head? ≠ some '{' := by
        rintro rfl
        cases t with
        | nil => exact clear rfl
        | cons d t => simpa using more.first_ne (d := '{') (by decide) (by decide)
      have inside : endsStatement c = false := by
        simp [endsStatement, ne_of_isOrdinary plain (d := '{') (by decide),
          ne_of_isOrdinary plain (d := ';') (by decide),
          ne_of_isOrdinary plain (d := '}') (by decide)]
      exact takenWhole_append (s := [c])
        (takenWhole_of_step inside (nextStep_ordinary plain uninterpolated))
        (ih (clear.of_append (s := [c])))
  | @escaped c t more ih =>
      exact takenWhole_append (s := ['\\', c]) (takenWhole_of_step (by decide) rfl)
        (ih (clear.of_append (s := ['\\', c])))
  | @quoted quote inner t mark inside more ih =>
      have goesOn : endsStatement quote = false := by rcases mark with rfl | rfl <;> decide
      have whole : quote :: (inner ++ quote :: t) = quote :: (inner ++ [quote]) ++ t := by simp
      rw [whole] at clear ⊢
      refine takenWhole_append (takenWhole_of_step goesOn ?_) (ih clear.of_append)
      rw [List.append_assoc]
      exact nextStep_quoted mark inside (t ++ rest)
  | @bracketed opening closing inner t pair inside more ihInside ih =>
      have whole : opening :: (inner ++ closing :: t) = opening :: (inner ++ [closing]) ++ t := by
        simp
      rw [whole] at clear ⊢
      refine takenWhole_append (takenWhole_brackets pair (ihInside ?_)) (ih clear.of_append)
      intro _
      rcases pair with ⟨rfl, rfl⟩ | ⟨rfl, rfl⟩ <;> simp

theorem readPrelude_ended {t : Text} {mark : Char} (nested : Nested t)
    (ends : endsStatement mark = true) (clear : Clear t (mark :: rest)) :
    readPrelude dialect [] position (t ++ mark :: rest) =
      .ok ⟨t, mark :: rest, position.advance t⟩ := by
  rw [takenWhole_nested nested clear, readPrelude_of_ends ends]
  simp [Except.map, Prelude.prepend]

theorem events_of_step {step : EventStep} (visible : isBlank c = false)
    (read : nextEvent dialect position c rest = .ok step) :
    events dialect position (c :: rest) =
      step.event?.toList.map .ok ++ events dialect step.position step.rest := by
  conv_lhs => unfold events
  simp only [visible, Bool.false_eq_true, if_false]
  split
  · rename_i error failed
    rw [failed] at read
    cases read
  · rename_i other found
    rw [found] at read
    cases read
    rfl

section Statements

variable {t : Text}

theorem events_of_statementStep {mark : Char} {step : EventStep} (nested : Nested t)
    (first : StartsVisibly t) (ends : endsStatement mark = true)
    (clear : Clear t (mark :: rest))
    (read : statementStep position ⟨t, mark :: rest, position.advance t⟩ = .ok step) :
    events dialect position (t ++ mark :: rest) =
      step.event?.toList.map .ok ++ events dialect step.position step.rest := by
  obtain ⟨c, head, visible⟩ := first
  obtain ⟨tail, rfl⟩ := List.head?_eq_some_iff.mp head
  have different (d : Char) (special : isOrdinary d = false)
      (other : d ∉ ['\\', '"', '\'', '(', '[']) : c ≠ d := by
    rintro rfl
    exact nested.first_ne special other rfl
  have prelude : readPrelude dialect [] position (c :: (tail ++ mark :: rest)) = _ :=
    readPrelude_ended nested ends clear
  rw [List.cons_append]
  apply events_of_step visible
  simp only [nextEvent, different '}' (by decide) (by decide),
    different ';' (by decide) (by decide), different '/' (by decide) (by decide), if_false,
    decide_false, Bool.false_and, Bool.false_eq_true, prelude, read]

theorem events_opening (nested : Nested t) (first : StartsVisibly t)
    (ending : t.getLast? ≠ some '#') :
    events dialect position (t ++ '{' :: rest) =
      .ok (.opening (trim t) position (position.advance t)) ::
        events dialect ((position.advance t).next '{') rest := by
  have read : statementStep position ⟨t, '{' :: rest, position.advance t⟩ =
      .ok ⟨some (.opening (trim t) position (position.advance t)), rest,
        (position.advance t).next '{'⟩ := by
    simp [statementStep, trim_ne_nil first]
  exact events_of_statementStep nested first (by decide) (fun last => absurd last ending) read

theorem events_statement (nested : Nested t) (first : StartsVisibly t) :
    events dialect position (t ++ ';' :: rest) =
      .ok (.statement (trim t) position) ::
        events dialect ((position.advance t).next ';') rest := by
  have read : statementStep position ⟨t, ';' :: rest, position.advance t⟩ =
      .ok ⟨some (.statement (trim t) position), rest, (position.advance t).next ';'⟩ := by
    simp [statementStep, statementStep.ended, trim_ne_nil first]
  exact events_of_statementStep nested first (by decide) (fun _ => by simp) read

end Statements

theorem events_closing :
    events dialect position ('}' :: rest) =
      .ok (.closing position) :: events dialect (position.next '}') rest :=
  events_of_step (c := '}') (by decide) rfl

theorem takeComment_closed {t : Text} (closed : ¬['*', '/'] <:+: t) (rest : Text) :
    takeComment (t ++ '*' :: '/' :: rest) = some (t, rest) := by
  induction t with
  | nil => rw [List.nil_append, takeComment]
  | cons c t ih =>
      have inside : ¬['*', '/'] <:+: t := fun found =>
        closed (found.trans (List.suffix_cons c t).isInfix)
      have notYet : ∀ after, c = '*' → t ++ '*' :: '/' :: rest = '/' :: after → False := by
        rintro after rfl same
        cases t with
        | nil => cases same
        | cons d t =>
            cases same
            exact closed (List.prefix_append ['*', '/'] t).isInfix
      rw [List.cons_append, takeComment, ih inside]
      · rfl
      · exact notYet

theorem events_comment {t : Text} (closed : ¬['*', '/'] <:+: t) (trimmed : Trimmed t) :
    ∃ next, events dialect position ('/' :: '*' :: (t ++ '*' :: '/' :: rest)) =
      .ok (.comment ⟨t, false, position⟩) :: events dialect next rest := by
  have read : nextEvent dialect position '/' ('*' :: (t ++ '*' :: '/' :: rest)) =
      .ok ⟨some (.comment ⟨t, false, position⟩), rest,
        position.advance ('/' :: '*' :: t ++ ['*', '/'])⟩ := by
    simp [nextEvent, takeComment_closed closed, trim_eq_self trimmed]
  exact ⟨_, events_of_step (by decide) read⟩

end Reading

/-! ### Trees that read back -/

structure StyleRule.Canonical (head : StyleRule) : Prop where
  balanced : Balanced head.selector
  nonempty : head.selector ≠ []
  unmarked : head.selector.head? ≠ some '@'

structure AtRule.Canonical (head : AtRule) : Prop where
  named : ∀ c ∈ head.name, isAtNameCharacter c = true
  balanced : Balanced head.params

def EndsImportant (t : Text) : Prop :=
  ∃ head blanks word, AllBlank blanks ∧ sameLetters word importantWord = true ∧
    head ++ '!' :: (blanks ++ word) = t

theorem endsImportant_iff {t : Text} : (beforeImportant? t).isSome = true ↔ EndsImportant t := by
  constructor
  · intro found
    obtain ⟨head, same⟩ := Option.isSome_iff_exists.mp found
    obtain ⟨before, after, word, _, blank, spelled, whole⟩ := exists_of_beforeImportant? same
    exact ⟨head ++ before, after, word, blank, spelled, by simpa using whole⟩
  · rintro ⟨head, blanks, word, blank, spelled, rfl⟩
    rw [beforeImportant?_append head blank spelled]
    rfl

instance (t : Text) : Decidable (EndsImportant t) := decidable_of_iff _ endsImportant_iff

structure Declaration.Canonical (declaration : Declaration) : Prop where
  named : ∀ c ∈ declaration.property, isOrdinary c = true ∧ c ≠ ':'
  trimmed : Trimmed declaration.property
  unmarked : declaration.property.head? ≠ some '@'
  balanced : Balanced declaration.value
  plain : declaration.important = false → ¬EndsImportant declaration.value

structure Comment.Canonical (comment : Comment) : Prop where
  block : comment.inline = false
  trimmed : Trimmed comment.text
  closed : ¬['*', '/'] <:+: comment.text

/-- Nodes whose texts read back as they were written, at every depth. -/
inductive Canonical : List Node → Prop where
  | nil : Canonical []
  | rule {head : StyleRule} {children nodes : List Node} (well : head.Canonical)
      (inside : Canonical children) (more : Canonical nodes) :
      Canonical (.rule head children :: nodes)
  | atBlock {head : AtRule} {children nodes : List Node} (well : head.Canonical)
      (inside : Canonical children) (more : Canonical nodes) :
      Canonical (.atBlock head children :: nodes)
  | atStatement {head : AtRule} {nodes : List Node} (well : head.Canonical)
      (more : Canonical nodes) : Canonical (.atStatement head :: nodes)
  | declaration {declaration : Declaration} {nodes : List Node} (well : declaration.Canonical)
      (more : Canonical nodes) : Canonical (.declaration declaration :: nodes)
  | comment {comment : Comment} {nodes : List Node} (well : comment.Canonical)
      (more : Canonical nodes) : Canonical (.comment comment :: nodes)

theorem isBlank_of_isAtNameCharacter {c : Char} (named : isAtNameCharacter c = true) :
    isBlank c = false := by
  cases blank : isBlank c with
  | false => rfl
  | true =>
      have other (d : Char) (visible : isBlank d = false) : c ≠ d := ne_of_isBlank blank visible
      simp [isAtNameCharacter, isAlphanumeric_of_isBlank blank, other '-' (by decide),
        other '_' (by decide)] at named

theorem ofText_append {name rest : Text} (named : ∀ c ∈ name, isAtNameCharacter c = true)
    (stop : ∀ c ∈ rest.head?, isAtNameCharacter c = false) (position : Position) :
    AtRule.ofText (name ++ rest) position = ⟨name, trim rest, position⟩ := by
  have ended : rest.takeWhile isAtNameCharacter = [] ∧ rest.dropWhile isAtNameCharacter = rest := by
    cases rest with
    | nil => exact ⟨rfl, rfl⟩
    | cons c rest => simp [stop c rfl]
  rw [AtRule.ofText, List.takeWhile_append_of_pos named, List.dropWhile_append_of_pos named,
    ended.1, ended.2, List.append_nil]

namespace AtRule.Canonical

variable {head : AtRule} (well : head.Canonical)
include well

theorem nested : Nested head.text := by
  have ordinary : ∀ c ∈ head.name, isOrdinary c = true := fun c member =>
    isOrdinary_of_predicate (well.named c member) (by decide)
  exact .ordinary (by decide) ((nested_of_ordinary ordinary).append
    (.ordinary (by decide) well.balanced.nested))

theorem ending : head.text.getLast? ≠ some '#' := by
  have last := well.balanced.ending
  rw [AtRule.text, ← List.cons_append, List.getLast?_append, List.getLast?_cons]
  cases ended : head.params.getLast? with
  | none => simp
  | some c =>
      rw [ended] at last
      simpa using last

theorem trimmed_name : Trimmed ('@' :: head.name) := by
  apply trimmed_of_visible
  rw [List.forall_mem_cons]
  exact ⟨by decide, fun c member => isBlank_of_isAtNameCharacter (well.named c member)⟩

theorem exists_ofText (position : Position) :
    ∃ t, trim head.text = '@' :: t ∧
      AtRule.ofText t position = { head with position := position } := by
  have space : AllBlank [' '] := by simp [AllBlank, isBlank]
  have name := well.trimmed_name
  obtain ⟨named, balanced⟩ := well
  by_cases empty : head.params = []
  · refine ⟨head.name ++ [], ?_, ?_⟩
    · have whole : head.text = [] ++ ('@' :: head.name ++ [' ']) := by
        simp [AtRule.text, empty]
      rw [whole, trim_of_blanks allBlank_nil space name, List.append_nil]
    · rw [ofText_append named (by simp), empty]
      rfl
  · refine ⟨head.name ++ ' ' :: head.params, ?_, ?_⟩
    · exact trim_eq_self (name.around balanced.trimmed (by simp) empty [' '])
    · have stop : ∀ c ∈ (' ' :: head.params).head?, isAtNameCharacter c = false := by
        rintro _ ⟨⟩
        decide
      have params : trim (' ' :: head.params) = head.params := by
        simpa using trim_of_blanks space allBlank_nil balanced.trimmed
      rw [ofText_append named stop, params]

end AtRule.Canonical

theorem letter_of_sameLetters {word : Text} (spelled : sameLetters word importantWord = true) :
    ∀ c ∈ word, isOrdinary c = true ∧ isBlank c = false := by
  have same : word.map Char.toLower = importantWord := eq_of_beq spelled
  intro c member
  have lower : c.toLower ∈ importantWord := same ▸ List.mem_map_of_mem member
  constructor
  · exact isOrdinary_of_predicate (p := fun c => decide (c.toLower ∈ importantWord))
      (by simpa using lower) (by decide)
  · cases blank : isBlank c with
    | false => rfl
    | true =>
        have visible : (importantWord.all fun d => !isBlank d) = true := by decide
        rw [toLower_of_isBlank blank] at lower
        simpa [blank] using List.all_eq_true.mp visible c lower

theorem splitColon_ordinary {property : Text}
    (named : ∀ c ∈ property, isOrdinary c = true ∧ c ≠ ':') (value : Text) :
    splitColon ⟨none, 0⟩ (property ++ ':' :: value) = some (property, value) := by
  induction property with
  | nil => simp [splitColon]
  | cons c property ih =>
      obtain ⟨⟨plain, other⟩, others⟩ := List.forall_mem_cons.mp named
      have same : ColonScan.step ⟨none, 0⟩ c = ⟨none, 0⟩ := by
        simp only [ColonScan.step]
        split
        · exact absurd plain (by decide)
        · exact absurd plain (by decide)
        · exact absurd plain (by decide)
        · exact absurd plain (by decide)
        · exact absurd plain (by decide)
        · exact absurd plain (by decide)
        · rfl
      rw [List.cons_append, splitColon, if_neg (by simp [other]), same, ih others]
      rfl

theorem trimmed_mark {word : Text} (spelled : sameLetters word importantWord = true)
    (declaration : Declaration) : Trimmed (declaration.mark word) := by
  apply trimmed_of_visible
  rw [Declaration.mark]
  split
  · rw [List.forall_mem_cons]
    exact ⟨by decide, fun c member => (letter_of_sameLetters spelled c member).2⟩
  · simp

namespace Declaration.Canonical

variable {declaration : Declaration} {word : Text} (well : declaration.Canonical)
  (spelled : sameLetters word importantWord = true)
include well spelled

theorem nested : Nested (declaration.text word) := by
  have mark : Nested (declaration.mark word) := by
    rw [Declaration.mark]
    split
    · exact .ordinary (by decide)
        (nested_of_ordinary fun c member => (letter_of_sameLetters spelled c member).1)
    · exact .nil
  exact (nested_of_ordinary fun c member => (well.named c member).1).append
    (.ordinary (by decide) (well.balanced.nested.append mark))

theorem trimmed_text : Trimmed (declaration.text word) := by
  have colon : Trimmed [':'] := by decide
  have mark := trimmed_mark spelled declaration
  exact well.trimmed.append (colon.append (well.balanced.trimmed.append mark))

theorem stripImportant_mark :
    stripImportant (declaration.value ++ declaration.mark word) =
      (declaration.value, declaration.important) := by
  have trimmed := well.balanced.trimmed.append (trimmed_mark spelled declaration)
  rw [stripImportant, trim_eq_self trimmed, Declaration.mark]
  cases flag : declaration.important with
  | true =>
      have marked := beforeImportant?_append declaration.value allBlank_nil spelled
      have value := trimEnd_of_blanks allBlank_nil well.balanced.trimmed.last
      rw [List.append_nil] at value
      rw [List.nil_append, value] at marked
      rw [if_pos rfl, marked]
  | false =>
      have unmarked : beforeImportant? declaration.value = none := by
        rw [← Option.not_isSome_iff_eq_none, endsImportant_iff]
        exact well.plain flag
      simp [unmarked]

theorem parse_text (position : Position) :
    Declaration.parse (declaration.text word) position =
      .ok { declaration with position := position } := by
  simp only [Declaration.parse, Declaration.text, splitColon_ordinary well.named,
    well.stripImportant_mark spelled, trim_eq_self well.trimmed]

end Declaration.Canonical

/-! ### Building the tree again -/

mutual

def Node.unplaced : Node → Node
  | .rule head children => .rule { head with position := .start } (Node.unplacedAll children)
  | .atBlock head children => .atBlock { head with position := .start } (Node.unplacedAll children)
  | .atStatement head => .atStatement { head with position := .start }
  | .declaration d => .declaration { d with position := .start }
  | .comment c => .comment { c with position := .start }

def Node.unplacedAll : List Node → List Node
  | [] => []
  | node :: rest => node.unplaced :: Node.unplacedAll rest

end

def Sheet.unplaced (sheet : Sheet) : Sheet := Node.unplacedAll sheet

theorem unplacedAll_append (nodes others : List Node) :
    Node.unplacedAll (nodes ++ others) = Node.unplacedAll nodes ++ Node.unplacedAll others := by
  induction nodes with
  | nil => simp [Node.unplacedAll]
  | cons node nodes ih => simp [Node.unplacedAll, ih]

/-- Wherever the text stands, reading it adds the nodes, up to their places. -/
def Builds (dialect : Dialect) (t : Text) (nodes : List Node) : Prop :=
  ∀ (position : Position) (frames : List Frame) (done : List Node) (rest : Text),
    ∃ placed next, Node.unplacedAll placed = Node.unplacedAll nodes ∧
      buildNodes frames done (events dialect position (t ++ rest)) =
        buildNodes frames (placed.reverse ++ done) (events dialect next rest)

section Building

variable {dialect : Dialect} {s t inner : Text} {nodes others children : List Node} {node : Node}

theorem builds_nil : Builds dialect [] [] := fun position _ _ _ => ⟨[], position, rfl, rfl⟩

theorem Builds.append (first : Builds dialect s nodes) (second : Builds dialect t others) :
    Builds dialect (s ++ t) (nodes ++ others) := by
  intro position frames done rest
  obtain ⟨placed, middle, same, built⟩ := first position frames done (t ++ rest)
  obtain ⟨more, next, alike, following⟩ := second middle frames (placed.reverse ++ done) rest
  refine ⟨placed ++ more, next, ?_, ?_⟩
  · rw [unplacedAll_append, unplacedAll_append, same, alike]
  · rw [List.append_assoc, built, following, List.reverse_append, List.append_assoc]

theorem builds_block (nested : Nested t) (first : StartsVisibly t)
    (ending : t.getLast? ≠ some '#') (inside : Builds dialect inner children)
    (made : ∀ position placed, Node.unplacedAll placed = Node.unplacedAll children →
      (Node.ofBlock (trim t) position placed).unplaced = node.unplaced) :
    Builds dialect (t ++ '{' :: (inner ++ ['}'])) [node] := by
  intro position frames done rest
  let frame : Frame := ⟨trim t, position, position.advance t, done⟩
  obtain ⟨placed, closing, same, built⟩ :=
    inside ((position.advance t).next '{') (frame :: frames) [] ('}' :: rest)
  refine ⟨[.ofBlock (trim t) position placed], closing.next '}', ?_, ?_⟩
  · simp [Node.unplacedAll, made position placed same]
  · have whole : t ++ '{' :: (inner ++ ['}']) ++ rest = t ++ '{' :: (inner ++ '}' :: rest) := by
      simp
    rw [whole, events_opening nested first ending, buildNodes, built, events_closing, buildNodes]
    simp [Frame.close, frame]

theorem builds_statement (nested : Nested t) (first : StartsVisibly t)
    (made : ∀ position, ∃ placed, Node.ofStatement (trim t) position = .ok placed ∧
      placed.unplaced = node.unplaced) :
    Builds dialect (t ++ [';']) [node] := by
  intro position frames done rest
  obtain ⟨placed, read, same⟩ := made position
  refine ⟨[placed], (position.advance t).next ';', by simp [Node.unplacedAll, same], ?_⟩
  rw [List.append_assoc, List.singleton_append, events_statement nested first, buildNodes, read]
  rfl

theorem ofBlock_of_unmarked (unmarked : t.head? ≠ some '@') (position : Position) :
    Node.ofBlock t position children = .rule ⟨t, position⟩ children := by
  unfold Node.ofBlock
  split
  · exact absurd rfl unmarked
  · rfl

theorem ofStatement_of_unmarked (unmarked : t.head? ≠ some '@') (position : Position) :
    Node.ofStatement t position = (Declaration.parse t position).map .declaration := by
  unfold Node.ofStatement
  split
  · exact absurd rfl unmarked
  · rfl

theorem builds_rule {head : StyleRule} (well : head.Canonical)
    (inside : Builds dialect inner children) :
    Builds dialect (head.selector ++ '{' :: (inner ++ ['}'])) [.rule head children] := by
  obtain ⟨⟨nested, trimmed, ending⟩, nonempty, unmarked⟩ := well
  refine builds_block nested (trimmed.startsVisibly nonempty) ending inside ?_
  intro position placed same
  rw [trim_eq_self trimmed, ofBlock_of_unmarked unmarked, Node.unplaced, Node.unplaced, same]

theorem builds_atBlock {head : AtRule} (well : head.Canonical)
    (inside : Builds dialect inner children) :
    Builds dialect (head.text ++ '{' :: (inner ++ ['}'])) [.atBlock head children] := by
  refine builds_block well.nested ⟨'@', rfl, by decide⟩ well.ending inside ?_
  intro position placed same
  obtain ⟨t, trimmed, parts⟩ := well.exists_ofText position
  rw [trimmed, Node.ofBlock, parts, Node.unplaced, Node.unplaced, same]

theorem builds_atStatement {head : AtRule} (well : head.Canonical) :
    Builds dialect (head.text ++ [';']) [.atStatement head] := by
  refine builds_statement well.nested ⟨'@', rfl, by decide⟩ ?_
  intro position
  obtain ⟨t, trimmed, parts⟩ := well.exists_ofText position
  exact ⟨_, by rw [trimmed, Node.ofStatement, parts], by rw [Node.unplaced, Node.unplaced]⟩

theorem builds_declaration {declaration : Declaration} {word : Text}
    (well : declaration.Canonical) (spelled : sameLetters word importantWord = true) :
    Builds dialect (declaration.text word ++ [';']) [.declaration declaration] := by
  have trimmed := well.trimmed_text spelled
  have nonempty : declaration.text word ≠ [] := by simp [Declaration.text]
  have unmarked : (declaration.text word).head? ≠ some '@' := by
    have first := well.unmarked
    rw [Declaration.text, List.head?_append]
    cases named : declaration.property.head? with
    | none => simp
    | some c => simpa [named] using first
  refine builds_statement (well.nested spelled) (trimmed.startsVisibly nonempty) ?_
  intro position
  refine ⟨.declaration { declaration with position := position }, ?_, ?_⟩
  · rw [trim_eq_self trimmed, ofStatement_of_unmarked unmarked, well.parse_text spelled]
    rfl
  · rw [Node.unplaced, Node.unplaced]

theorem builds_comment {comment : Comment} (well : comment.Canonical) :
    Builds dialect comment.source [.comment comment] := by
  obtain ⟨block, trimmed, closed⟩ := well
  intro position frames done rest
  obtain ⟨next, read⟩ := events_comment closed trimmed
  refine ⟨[.comment ⟨comment.text, false, position⟩], next, ?_, ?_⟩
  · simp [Node.unplacedAll, Node.unplaced, block]
  · have whole : comment.source ++ rest =
        '/' :: '*' :: (comment.text ++ '*' :: '/' :: rest) := by
      simp [Comment.source, block]
    rw [whole, read, buildNodes]
    rfl

/-- By induction on how the nodes are written: what is inside a block is built before the block
closes, and what comes after a node is built after it. -/
theorem builds_written (written : Written nodes t) (canonical : Canonical nodes) :
    Builds dialect t nodes := by
  induction written with
  | nil => exact builds_nil
  | rule head inside more ihInside ih =>
      cases canonical with
      | rule well inner following =>
          simpa using (builds_rule well (ihInside inner)).append (ih following)
  | atBlock head inside more ihInside ih =>
      cases canonical with
      | atBlock well inner following =>
          simpa using (builds_atBlock well (ihInside inner)).append (ih following)
  | atStatement head more ih =>
      cases canonical with
      | atStatement well following => simpa using (builds_atStatement well).append (ih following)
  | declaration declaration spelled more ih =>
      cases canonical with
      | declaration well following =>
          simpa using (builds_declaration well spelled).append (ih following)
  | comment comment more ih =>
      cases canonical with
      | comment well following => simpa using (builds_comment well).append (ih following)

end Building

/-- A canonical tree, written out, reads back as itself in both dialects, up to the places where its
nodes stand. -/
theorem parse_render (dialect : Dialect) (sheet : Sheet) (canonical : Canonical sheet) :
    (Sheet.parse dialect sheet.render).map Sheet.unplaced = .ok sheet.unplaced := by
  have builds : Builds dialect sheet.render sheet :=
    builds_written (Node.written_renders sheet) canonical
  obtain ⟨placed, next, same, built⟩ := builds .start [] [] []
  have ended : events dialect next [] = [] := by unfold events; rfl
  have read : Sheet.parse dialect sheet.render = .ok placed := by
    rw [Sheet.parse, ← List.append_nil sheet.render, built, ended, buildNodes]
    simp
  rw [read]
  exact congrArg Except.ok same

def sampleSheet : Sheet :=
  [.comment ⟨"c", false, .start⟩,
    .atBlock ⟨"media", "(d)", .start⟩
      [.rule ⟨".a[b=\"\x7d\"]", .start⟩
        [.declaration ⟨"e", "f", false, .start⟩, .declaration ⟨"e", "", true, .start⟩]],
    .atStatement ⟨"g", "", .start⟩]

theorem canonical_sampleSheet : Canonical sampleSheet := by
  have string : Nested ['"', '\x7d', '"'] :=
    .quoted (.inl rfl) (.character (by decide) (by decide) (by decide) .nil) .nil
  have bracketed : Nested ['[', 'b', '=', '"', '\x7d', '"', ']'] :=
    .bracketed (.inr ⟨rfl, rfl⟩) (.ordinary rfl (.ordinary rfl string)) .nil
  have selector : Balanced ".a[b=\"\x7d\"]" :=
    ⟨.ordinary rfl (.ordinary rfl bracketed), by decide, by decide⟩
  have params : Balanced "(d)" :=
    ⟨.bracketed (.inl ⟨rfl, rfl⟩) (.ordinary rfl .nil) .nil, by decide, by decide⟩
  have value : Balanced "f" := ⟨.ordinary rfl .nil, by decide, by decide⟩
  have empty : Balanced "" := ⟨.nil, by decide, by decide⟩
  have property : ∀ c ∈ ("e" : Text), isOrdinary c = true ∧ c ≠ ':' := by
    simp [isOrdinary, specialCharacters]
  have declarations : Canonical
      [.declaration ⟨"e", "f", false, .start⟩, .declaration ⟨"e", "", true, .start⟩] :=
    .declaration ⟨property, by decide, by decide, value, by decide⟩
      (.declaration ⟨property, by decide, by decide, empty, by decide⟩ .nil)
  exact .comment ⟨rfl, by decide, by decide⟩
    (.atBlock ⟨List.all_eq_true.mp rfl, params⟩
      (.rule ⟨selector, by decide, by decide⟩ declarations .nil)
      (.atStatement ⟨List.all_eq_true.mp rfl, empty⟩ .nil))

theorem parse_render_sampleSheet :
    sampleSheet.render =
        "/*c*/@media (d)\x7b.a[b=\"\x7d\"]\x7be:f;e:!important;\x7d\x7d@g ;".toList ∧
      (Sheet.parse .scss sampleSheet.render).map Sheet.unplaced = .ok sampleSheet.unplaced :=
  ⟨by decide, parse_render .scss sampleSheet canonical_sampleSheet⟩

end ClassLint
