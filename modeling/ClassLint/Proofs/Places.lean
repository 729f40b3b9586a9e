import ClassLint.Proofs.Conservation
import ClassLint.Proofs.Offsets
import ClassLint.Proofs.Outlines
import Mathlib.Data.List.Forall2

/-! Where nodes stand in a source. Every node has the position of the offset at which its text
starts, and the offsets increase from each node of the outline to the next. A line comment inside a
statement is dropped from the text of that statement and from nothing else: the positions count
it. -/

namespace ClassLint

/-! ### Line comments inside statements -/

def startsLineComment : Text → Bool
  | '/' :: '/' :: _ => true
  | _ => false

/-- Whether a line comment lies in the rest of a statement, outside all brackets. -/
def commentInStatement (brackets : List OpenBracket) (position : Position) (t : Text) : Bool :=
  match t with
  | [] => false
  | c :: rest =>
    if brackets.isEmpty && endsStatement c then false
    else if brackets.isEmpty && startsLineComment (c :: rest) then true
    else
      match read : nextStep .scss brackets position c rest with
      | .error _ => false
      | .ok step =>
        have := congrArg List.length (nextStep_append read)
        have := List.length_pos_iff.2 (nextStep_taken_ne_nil read)
        commentInStatement step.brackets (position.advance step.taken) step.rest
termination_by t.length
decreasing_by simp_all; omega

def Event.isStatement : Event → Bool
  | .opening _ _ _ | .statement _ _ => true
  | .comment _ | .closing _ => false

def commentInsideFrom (position : Position) (t : Text) : Bool :=
  match t with
  | [] => false
  | c :: rest =>
    if isBlank c then commentInsideFrom (position.next c) rest
    else
      match read : nextEvent .scss position c rest with
      | .error _ => false
      | .ok step =>
        have := nextEvent_shorter read
        step.event?.any Event.isStatement && commentInStatement [] position (c :: rest) ||
          commentInsideFrom step.position step.rest
termination_by t.length
decreasing_by
  · simp only [List.length_cons, Nat.lt_add_one]
  · exact this

/-- Whether a source of the second dialect has a line comment inside a statement. -/
def commentInside (source : Text) : Bool := commentInsideFrom .start source

theorem nextStep_kept_of_no_comment {dialect : Dialect} {brackets : List OpenBracket}
    {position : Position} {c : Char} {rest : Text} {step : Step}
    (plain : dialect = .scss → (brackets.isEmpty && startsLineComment (c :: rest)) = false)
    (read : nextStep dialect brackets position c rest = .ok step) : step.kept = true := by
  have noLine : ¬(c = '/' ∧ rest.head? = some '/' ∧ dialect = .scss ∧ brackets.isEmpty = true) := by
    rintro ⟨rfl, first, same, outside⟩
    obtain ⟨tail, rfl⟩ := List.head?_eq_some_iff.mp first
    have free := plain same
    rw [outside] at free
    cases free
  unfold nextStep at read
  grind

theorem commentInStatement_step {brackets : List OpenBracket} {position : Position} {c : Char}
    {rest : Text} {step : Step} (inside : ¬(brackets.isEmpty && endsStatement c) = true)
    (read : nextStep .scss brackets position c rest = .ok step)
    (plain : commentInStatement brackets position (c :: rest) = false) :
    (brackets.isEmpty && startsLineComment (c :: rest)) = false ∧
      commentInStatement step.brackets (position.advance step.taken) step.rest = false := by
  rw [commentInStatement, if_neg inside] at plain
  split at plain
  · cases plain
  · rename_i outside
    refine ⟨by simpa using outside, ?_⟩
    split at plain
    · rename_i failed
      rw [read] at failed
      cases failed
    · rename_i other found
      rw [read] at found
      cases found
      exact plain

/-! ### Statements -/

theorem exists_taken_of_readPrelude {dialect : Dialect} {brackets : List OpenBracket}
    {position : Position} {t : Text} {prelude : Prelude}
    (read : readPrelude dialect brackets position t = .ok prelude) :
    ∃ taken, taken ++ prelude.rest = t ∧ prelude.position = position.advance taken := by
  fun_induction readPrelude dialect brackets position t generalizing prelude
  case case1 =>
    cases read
    exact ⟨[], rfl, rfl⟩
  case case2 => cases read
  case case3 =>
    cases read
    exact ⟨[], rfl, rfl⟩
  case case4 => cases read
  case case5 step found _ _ ih =>
    obtain ⟨tail, following, rfl⟩ := exists_of_map_eq_ok read
    obtain ⟨taken, whole, counted⟩ := ih following
    refine ⟨step.taken ++ taken, ?_, ?_⟩
    · rw [apply_ite Prelude.rest, ite_self, List.append_assoc, whole, nextStep_append found]
    · rw [apply_ite Prelude.position, ite_self, counted, Position.advance_append]

theorem text_append_of_no_comment {dialect : Dialect} {brackets : List OpenBracket}
    {position : Position} {t : Text} {prelude : Prelude}
    (plain : dialect = .scss → commentInStatement brackets position t = false)
    (read : readPrelude dialect brackets position t = .ok prelude) :
    prelude.text ++ prelude.rest = t := by
  fun_induction readPrelude dialect brackets position t generalizing prelude
  case case1 =>
    cases read
    rfl
  case case2 => cases read
  case case3 =>
    cases read
    rfl
  case case4 => cases read
  case case5 inside step found _ _ ih =>
    obtain ⟨tail, following, rfl⟩ := exists_of_map_eq_ok read
    have next (same : dialect = .scss) :=
      commentInStatement_step inside (same ▸ found) (plain same)
    have kept := nextStep_kept_of_no_comment (fun same => (next same).1) found
    rw [kept, if_pos rfl, List.append_assoc, ih (fun same => (next same).2) following,
      nextStep_append found]

theorem trim_isPrefix {t : Text} (first : ∀ c ∈ t.head?, isBlank c = false) : trim t <+: t := by
  have start : trimStart t = t := trimStart_of_blanks allBlank_nil first
  obtain ⟨after, -, whole⟩ := exists_trimEnd t
  rw [trim, start]
  exact ⟨after, whole⟩

theorem trim_isPrefix_of_append {s t : Text} {c : Char} {rest : Text} (whole : s ++ t = c :: rest)
    (visible : isBlank c = false) : trim s <+: c :: rest := by
  have first : ∀ d ∈ s.head?, isBlank d = false := by
    intro d found
    obtain ⟨tail, rfl⟩ := List.head?_eq_some_iff.mp found
    obtain ⟨rfl, -⟩ := List.cons.inj whole
    exact visible
  exact (trim_isPrefix first).trans ⟨t, whole⟩

theorem atRule_isPrefix (t : Text) (position : Position) :
    '@' :: (AtRule.ofText t position).name <+: '@' :: t :=
  List.cons_prefix_cons.mpr ⟨rfl, List.takeWhile_prefix _⟩

theorem label_ofBlock_isPrefix (prelude : Text) (position : Position) (children : List Node) :
    (Node.ofBlock prelude position children).label.1 = position ∧
      (Node.ofBlock prelude position children).label.2 <+: prelude := by
  unfold Node.ofBlock
  split
  · exact ⟨rfl, atRule_isPrefix _ _⟩
  · exact ⟨rfl, List.prefix_rfl⟩

theorem label_ofStatement_isPrefix {t : Text} {position : Position} {node : Node}
    (first : ∀ c ∈ t.head?, isBlank c = false) (read : Node.ofStatement t position = .ok node) :
    node.label.1 = position ∧ node.label.2 <+: t := by
  unfold Node.ofStatement at read
  split at read
  · cases read
    exact ⟨rfl, atRule_isPrefix _ _⟩
  · obtain ⟨declaration, parsed, rfl⟩ := exists_of_map_eq_ok read
    unfold Declaration.parse at parsed
    split at parsed
    · cases parsed
    · rename_i property value found
      cases parsed
      have whole : property ++ ':' :: value = t := splitColon_append found
      refine ⟨rfl, ?_⟩
      cases t with
      | nil => simp at whole
      | cons c rest => exact trim_isPrefix_of_append whole (first c rfl)

/-! ### Events -/

theorem exists_counted_of_nextEvent {dialect : Dialect} {position : Position} {c : Char}
    {rest : Text} {step : EventStep} (read : nextEvent dialect position c rest = .ok step) :
    ∃ taken, taken ++ step.rest = c :: rest ∧ step.position = position.advance taken := by
  unfold nextEvent at read
  split at read
  · cases read
    exact ⟨[c], rfl, rfl⟩
  split at read
  · cases read
    exact ⟨[c], rfl, rfl⟩
  split at read
  · rename_i opens
    simp only [Bool.and_eq_true, decide_eq_true_eq] at opens
    obtain ⟨rfl, first⟩ := opens
    obtain ⟨inner, rfl⟩ := List.head?_eq_some_iff.mp first
    split at read
    · cases read
    · rename_i body after found
      cases read
      have whole : body ++ '*' :: '/' :: after = inner := takeComment_append found
      exact ⟨'/' :: '*' :: body ++ ['*', '/'], by simp [whole], rfl⟩
  split at read
  · cases read
    exact ⟨c :: rest.takeWhile (· ≠ '\n'),
      congrArg (c :: ·) List.takeWhile_append_dropWhile, rfl⟩
  split at read
  · cases read
  · rename_i prelude found
    obtain ⟨taken, whole, counted⟩ := exists_taken_of_readPrelude found
    unfold statementStep at read
    simp only at read
    split at read
    · rename_i after opened
      split at read
      · cases read
      · cases read
        rw [opened] at whole
        exact ⟨taken ++ ['{'], by simpa using whole, by rw [Position.advance_append, counted]; rfl⟩
    · rename_i after ended
      cases read
      rw [ended] at whole
      exact ⟨taken ++ [';'], by simpa using whole, by rw [Position.advance_append, counted]; rfl⟩
    · cases read
      exact ⟨taken, whole, counted⟩

theorem label_of_statementStep {position : Position} {prelude : Prelude} {step : EventStep}
    {event : Event} {label : Position × Text} (read : statementStep position prelude = .ok step)
    (found : event ∈ step.event?) (labelled : label ∈ event.label?) :
    event.isStatement = true ∧ label.1 = position ∧ label.2 <+: trim prelude.text := by
  have ended (same : event ∈ statementStep.ended position (trim prelude.text)) :
      event.isStatement = true ∧ label.1 = position ∧ label.2 <+: trim prelude.text := by
    unfold statementStep.ended at same
    split at same
    · cases same
    · cases same
      rw [Option.mem_def, Event.label?, Option.map_eq_some_iff] at labelled
      obtain ⟨node, built, rfl⟩ := labelled
      have read : Node.ofStatement (trim prelude.text) position = .ok node := by
        cases outcome : Node.ofStatement (trim prelude.text) position with
        | error error =>
            rw [outcome] at built
            cases built
        | ok other =>
            rw [outcome] at built
            cases built
            rfl
      exact ⟨rfl, label_ofStatement_isPrefix (trimmed_trim prelude.text).first read⟩
  unfold statementStep at read
  simp only at read
  split at read
  · split at read
    · cases read
    · cases read
      cases found
      cases labelled
      exact ⟨rfl, label_ofBlock_isPrefix (trim prelude.text) position []⟩
  · cases read
    exact ended found
  · cases read
    exact ended found

/-- A step finds a node where it starts; and the text there is the node's, unless a line comment is
dropped from it. -/
theorem label_of_nextEvent {dialect : Dialect} {position : Position} {c : Char} {rest : Text}
    {step : EventStep} {event : Event} {label : Position × Text} (visible : isBlank c = false)
    (read : nextEvent dialect position c rest = .ok step) (found : event ∈ step.event?)
    (labelled : label ∈ event.label?) :
    label.1 = position ∧
      ((dialect = .scss → event.isStatement = true →
        commentInStatement [] position (c :: rest) = false) → label.2 <+: c :: rest) := by
  unfold nextEvent at read
  split at read
  · cases read
    cases found
    cases labelled
  split at read
  · cases read
    cases found
  split at read
  · rename_i opens
    simp only [Bool.and_eq_true, decide_eq_true_eq] at opens
    obtain ⟨rfl, first⟩ := opens
    obtain ⟨inner, rfl⟩ := List.head?_eq_some_iff.mp first
    split at read
    · cases read
    · cases read
      cases found
      cases labelled
      exact ⟨rfl, fun _ => List.prefix_append ['/', '*'] inner⟩
  split at read
  · rename_i opens
    simp only [Bool.and_eq_true, decide_eq_true_eq] at opens
    obtain ⟨⟨rfl, first⟩, -⟩ := opens
    obtain ⟨inner, rfl⟩ := List.head?_eq_some_iff.mp first
    cases read
    cases found
    cases labelled
    exact ⟨rfl, fun _ => List.prefix_append ['/', '/'] inner⟩
  split at read
  · cases read
  · rename_i prelude taken
    obtain ⟨statement, placed, starts⟩ := label_of_statementStep read found labelled
    refine ⟨placed, ?_⟩
    intro plain
    have whole := text_append_of_no_comment (fun same => plain same statement) taken
    exact starts.trans (trim_isPrefix_of_append whole visible)

/-- A label stands at an offset: the positions agree, and so do the texts where that is known. -/
structure LabelAt (source : Text) (plain : Prop) (offset : Nat) (label : Position × Text) :
    Prop where
  inside : offset ≤ source.length
  position : label.1 = .ofOffset source offset
  text : plain → label.2 <+: source.drop offset

theorem labelAt_of_append {before rest : Text} {plain : Prop} {label : Position × Text}
    (placed : label.1 = Position.start.advance before) (starts : plain → label.2 <+: rest) :
    LabelAt (before ++ rest) plain before.length label where
  inside := by
    rw [List.length_append]
    exact Nat.le_add_right _ _
  position := by rw [placed, Position.ofOffset_append]
  text := by rwa [List.drop_left]

theorem commentInsideFrom_step {position : Position} {c : Char} {rest : Text} {step : EventStep}
    (visible : ¬isBlank c = true) (read : nextEvent .scss position c rest = .ok step)
    (plain : commentInsideFrom position (c :: rest) = false) :
    (∀ event ∈ step.event?, event.isStatement = true →
      commentInStatement [] position (c :: rest) = false) ∧
      commentInsideFrom step.position step.rest = false := by
  unfold commentInsideFrom at plain
  simp only [visible, Bool.false_eq_true, if_false] at plain
  split at plain
  · rename_i failed
    rw [read] at failed
    cases failed
  · rename_i other found
    rw [read] at found
    cases found
    rw [Bool.or_eq_false_iff, Bool.and_eq_false_iff] at plain
    refine ⟨?_, plain.2⟩
    intro event same statement
    rcases plain.1 with none | free
    · rw [Option.mem_def.mp same, Option.any_some, statement] at none
      cases none
    · exact free

/-- The labels of the events of a source stand at increasing offsets behind what is read already. -/
theorem exists_offsets_of_events {dialect : Dialect} {position : Position} {t before : Text}
    {plain : Prop} (counted : position = Position.start.advance before)
    (free : plain → dialect = .scss → commentInsideFrom position t = false) :
    ∃ offsets : List Nat, offsets.Pairwise (· < ·) ∧ (∀ offset ∈ offsets, before.length ≤ offset) ∧
      List.Forall₂ (LabelAt (before ++ t) plain) offsets
        (eventLabels (events dialect position t)) := by
  fun_induction events dialect position t generalizing before
  case case1 => exact ⟨[], .nil, by simp, .nil⟩
  case case2 position c rest blank ih =>
    have next : position.next c = Position.start.advance (before ++ [c]) := by
      rw [Position.advance_append, ← counted]
      rfl
    have later : plain → dialect = .scss → commentInsideFrom (position.next c) rest = false := by
      intro holds same
      have here := free holds same
      unfold commentInsideFrom at here
      simpa only [blank, if_true] using here
    obtain ⟨offsets, increasing, behind, stand⟩ := ih next later
    refine ⟨offsets, increasing, ?_, by simpa using stand⟩
    intro offset member
    have bound := behind offset member
    rw [List.length_append] at bound
    omega
  case case3 => exact ⟨[], .nil, by simp, .nil⟩
  case case4 position c rest visible step read _ ih =>
    obtain ⟨taken, whole, advanced⟩ := exists_counted_of_nextEvent read
    have next : step.position = Position.start.advance (before ++ taken) := by
      rw [Position.advance_append, ← counted, advanced]
    have following (holds : plain) (same : dialect = .scss) :=
      commentInsideFrom_step visible (same ▸ read) (free holds same)
    obtain ⟨offsets, increasing, behind, stand⟩ :=
      ih next fun holds same => (following holds same).2
    have source : before ++ taken ++ step.rest = before ++ c :: rest := by
      rw [List.append_assoc, whole]
    rw [source] at stand
    -- Each step takes a character at least, so what it finds stands before all that follows.
    have forward : before.length < (before ++ taken).length := by
      have shorter := nextEvent_shorter read
      rw [← whole, List.length_append] at shorter
      rw [List.length_append]
      omega
    have later : ∀ offset ∈ offsets, before.length < offset := by
      intro offset member
      exact lt_of_lt_of_le forward (behind offset member)
    rw [eventLabels_append]
    cases found : step.event? with
    | none => exact ⟨offsets, increasing, fun offset member => (later offset member).le, stand⟩
    | some event =>
        rw [Option.toList_some, List.map_singleton, eventLabels_ok]
        cases labelled : event.label? with
        | none => exact ⟨offsets, increasing, fun offset member => (later offset member).le, stand⟩
        | some label =>
            obtain ⟨placed, starts⟩ :=
              label_of_nextEvent (by simpa using visible) read found labelled
            have here : LabelAt (before ++ c :: rest) plain before.length label := by
              apply labelAt_of_append (placed.trans counted)
              intro holds
              exact starts fun same => (following holds same).1 event found
            refine ⟨before.length :: offsets, List.pairwise_cons.mpr ⟨later, increasing⟩, ?_,
              .cons here stand⟩
            intro offset member
            rcases List.mem_cons.mp member with rfl | member
            · exact Nat.le_refl _
            · exact (later offset member).le

theorem exists_offsets_of_parse {dialect : Dialect} {source : Text} {sheet : Sheet} {plain : Prop}
    (read : Sheet.parse dialect source = .ok sheet)
    (free : plain → dialect = .scss → commentInside source = false) :
    ∃ offsets : List Nat, offsets.Pairwise (· < ·) ∧
      List.Forall₂ (fun offset (entry : Nat × Node) => LabelAt source plain offset entry.2.label)
        offsets sheet.outline := by
  have counted : Position.start = Position.start.advance [] := rfl
  obtain ⟨offsets, increasing, -, stand⟩ := exists_offsets_of_events counted free
  rw [List.nil_append, ← labels_parse read, List.forall₂_map_right_iff] at stand
  exact ⟨offsets, increasing, stand⟩

/-- A node stands at an offset of a source: its position is that of this offset and of no other one,
and the source goes on there with the text of the node. With fewer characters than a word of 32 bits
can count, line and column are such words. -/
structure Node.StandsAt (source : Text) (offset : Nat) (node : Node) : Prop where
  inside : offset ≤ source.length
  position : node.position = .ofOffset source offset
  only : ∀ other ≤ source.length, node.position = .ofOffset source other → other = offset
  text : node.opening <+: source.drop offset
  fits : source.length < 0xFFFFFFFF →
    node.position.line ≤ 0xFFFFFFFF ∧ node.position.column ≤ 0xFFFFFFFF

theorem LabelAt.standsAt {source : Text} {offset : Nat} {node : Node}
    (stands : LabelAt source True offset node.label) : node.StandsAt source offset where
  inside := stands.inside
  position := stands.position
  only := Position.only_ofOffset stands.inside stands.position
  text := stands.text trivial
  fits := Position.fits_ofOffset stands.position

/-- Positions are exact: every node of a source that can be read stands at an offset of its own, and
the offsets increase along the outline. In the second dialect that is said of sources without line
comments inside statements. -/
theorem parse_positions (dialect : Dialect) (source : Text) (sheet : Sheet)
    (read : Sheet.parse dialect source = .ok sheet)
    (plain : dialect = .scss → commentInside source = false) :
    ∃ offsets : List Nat, offsets.Pairwise (· < ·) ∧
      List.Forall₂ (fun offset (entry : Nat × Node) => entry.2.StandsAt source offset) offsets
        sheet.outline := by
  obtain ⟨offsets, increasing, stand⟩ := exists_offsets_of_parse read fun _ : True => plain
  exact ⟨offsets, increasing, stand.imp fun _ _ => LabelAt.standsAt⟩

/-- Two line comments between statements, a statement over two lines, and a double slash in a
string. -/
theorem parse_positions_nested :
    ∃ sheet : Sheet,
      Sheet.parse .scss "// a\n.b,\n.c \x7b // d\n  @e \"//\";\n\tf: g \x7d" = .ok sheet ∧
        commentInside "// a\n.b,\n.c \x7b // d\n  @e \"//\";\n\tf: g \x7d" = false ∧
        sheet.outline.map (fun entry => (entry.2.position, entry.2.opening)) =
          [(⟨1, 1⟩, "//".toList), (⟨2, 1⟩, ".b,\n.c".toList), (⟨3, 6⟩, "//".toList),
            (⟨4, 3⟩, "@e".toList), (⟨5, 2⟩, "f".toList)] ∧
        ∃ offsets : List Nat, offsets.Pairwise (· < ·) ∧
          List.Forall₂ (fun offset (entry : Nat × Node) => entry.2.StandsAt
            "// a\n.b,\n.c \x7b // d\n  @e \"//\";\n\tf: g \x7d" offset) offsets sheet.outline := by
  have read : (Sheet.parse .scss "// a\n.b,\n.c \x7b // d\n  @e \"//\";\n\tf: g \x7d").map
      (fun sheet => sheet.outline.map fun entry => (entry.2.position, entry.2.opening)) =
      .ok [(⟨1, 1⟩, "//".toList), (⟨2, 1⟩, ".b,\n.c".toList), (⟨3, 6⟩, "//".toList),
        (⟨4, 3⟩, "@e".toList), (⟨5, 2⟩, "f".toList)] := by
    decide +kernel
  have plain : commentInside "// a\n.b,\n.c \x7b // d\n  @e \"//\";\n\tf: g \x7d" = false := by
    decide +kernel
  obtain ⟨sheet, read, outline⟩ := exists_of_map_eq_ok read
  exact ⟨sheet, read, plain, outline, parse_positions _ _ sheet read fun _ => plain⟩

end ClassLint
