import ClassLint.Proofs.CommaScanning
import ClassLint.Proofs.Lexing

/-! Two ways to divide a selector list at its commas: the scan that finds the selectors an ancestor
supplies, and the reader of selectors. They agree where every token encloses its commas in strings
or brackets and no selector ends in a blank of its own; a comment need not enclose its commas. -/

namespace ClassLint

theorem enclosed_of_blanks {t : Text} (blank : AllBlank t) : Enclosed false t := by
  induction t with
  | nil => exact .nil
  | cons c t ih =>
      obtain ⟨first, others⟩ := List.forall_mem_cons.mp blank
      have other (d : Char) (visible : isBlank d = false) : c ≠ d := ne_of_isBlank first visible
      have comma := other ',' (by decide)
      refine .character (other _ (by decide)) ?_ ?_ ?_ (fun same => absurd same comma) (ih others)
      · simp [isQuote, other '"' (by decide), other '\'' (by decide)]
      · simp [isOpening, other '(' (by decide), other '[' (by decide)]
      · simp [isClosing, other ')' (by decide), other ']' (by decide)]

theorem passedOver_sources {pieces : List Piece}
    (each : ∀ piece ∈ pieces, PassedOver piece.source) : PassedOver (Piece.sources pieces) := by
  induction pieces with
  | nil => rfl
  | cons piece pieces ih =>
      obtain ⟨first, others⟩ := List.forall_mem_cons.mp each
      exact CommaScan.pass_append first (ih others)

/-- Where the scan passes over every piece, it divides at the commas that the reader divides at. -/
theorem between_of_readPieces {raw : Text} {groups : List (List Piece)}
    (read : readPieces raw = .ok groups)
    (passed : ∀ group ∈ groups, ∀ piece ∈ group, PassedOver piece.source) :
    CommaScan.start.between raw = groups.map Piece.sources := by
  induction groups generalizing raw with
  | nil =>
      obtain ⟨group, others, same, _⟩ := exists_readsTo read
      cases same
  | cons group groups ih =>
      obtain ⟨first, others⟩ := List.forall_mem_cons.mp passed
      have passes : PassedOver (Piece.sources group) := passedOver_sources first
      obtain ⟨_, _, same, ended | ⟨rest, divided, following⟩⟩ := exists_readsTo read
      · obtain ⟨whole, rfl⟩ := ended
        cases same
        rw [← whole.sources_append, CommaScan.between_append passes]
        simp [CommaScan.between, CommaScan.prepend]
      · cases same
        have comma : CommaScan.start.between (',' :: rest) =
            [] :: CommaScan.start.between rest := rfl
        rw [← divided.sources_append, CommaScan.between_append passes, comma, ih following others]
        simp [CommaScan.prepend]

/-! ### What is known of pieces that were read -/

def Piece.isSpace : Piece → Bool
  | .space _ => true
  | _ => false

/-- Only blanks make a space, a combinator has a mark of its own and is no token, a token starts
with no blank, and a comment ends with its slash. -/
def Piece.WellFormed : Piece → Prop
  | .space blanks => AllBlank blanks
  | .combinator mark => mark ≠ .descendant
  | .token written => (∃ c rest, written.raw = c :: rest ∧ isBlank c = false) ∧
      written.combinator? = none ∧
      (written.isComment = true → written.raw.getLast? = some '/')

theorem exists_token_of_readToken {c : Char} {rest after : Text} {piece : Piece}
    (read : readToken c rest = .ok (piece, after)) :
    ∃ token, piece = .token token ∧ token.combinator? = none ∧
      (token.isComment = true → token.raw.getLast? = some '/') := by
  have pseudo (colons name : Text) : pseudoKind colons name = .pseudoClass ∨
      pseudoKind colons name = .pseudoElement := by
    unfold pseudoKind
    split <;> simp
  have other (found : ∃ token, piece = .token token ∧ token.kind ≠ .comment ∧
      ∀ combinator, token.kind ≠ .combinator combinator) :
      ∃ token, piece = .token token ∧ token.combinator? = none ∧
        (token.isComment = true → token.raw.getLast? = some '/') := by
    obtain ⟨token, same, named, plain⟩ := found
    refine ⟨token, same, ?_, fun comment => absurd (eq_of_beq comment) named⟩
    unfold Token.combinator?
    split
    · rename_i combinator kind
      exact absurd kind (plain combinator)
    · rfl
  unfold readToken at read
  split at read
  case h_9 =>
    unfold readComment at read
    split at read
    · split at read
      · rename_i taken _
        cases read
        have last : ('/' :: '*' :: taken.1 ++ ['*', '/']).getLast? = some '/' := by
          rw [List.getLast?_append]
          rfl
        exact ⟨_, rfl, rfl, fun _ => last⟩
      · cases read
    · cases read
  all_goals
    apply other
    grind [readMarked, readTag, readNesting, readAttribute, readPseudo, readPlaceholder]

theorem wellFormed_of_readPiece {c : Char} {rest after : Text} {piece : Piece}
    (read : readPiece c rest = .ok (piece, after)) : piece.WellFormed := by
  have whole := readPiece_append read
  have nonempty := readPiece_source_ne_nil read
  unfold readPiece at read
  split at read
  · rename_i blank
    cases read
    have first : AllBlank [c] := by simpa [AllBlank] using blank
    exact allBlank_append.mpr ⟨first, fun _ => List.mem_takeWhile_imp⟩
  · rename_i visible
    split at read
    · rename_i mark found
      cases read
      rintro rfl
      have space := Combinator.mark_of_ofMark? found
      exact visible (space ▸ rfl)
    · obtain ⟨token, rfl, plain, comment⟩ := exists_token_of_readToken read
      obtain ⟨d, tail, source⟩ := List.exists_cons_of_ne_nil nonempty
      rw [source] at whole
      injection whole with first
      exact ⟨⟨d, tail, source, by simpa [first] using visible⟩, plain, comment⟩

theorem ReadsTo.wellFormed {t final : Text} {pieces : List Piece} (read : ReadsTo t pieces final) :
    ∀ piece ∈ pieces, piece.WellFormed := by
  induction read with
  | done t => simp
  | piece inside read more ih =>
      exact List.forall_mem_cons.mpr ⟨wellFormed_of_readPiece read, ih⟩

/-! ### Joining with and without the blanks around a selector -/

def Gap.found? (gap : Option Gap) : Option Combinator := gap.bind Gap.combinator?

theorem found?_addBlanks (blanks : Text) (gap : Option Gap) :
    Gap.found? (some (Gap.addBlanks blanks gap)) = Gap.found? gap := by
  cases gap <;> rfl

theorem meaning_closing (gap : Option Gap) :
    (Gap.closing gap).map Token.meaning = (Gap.found? gap).toList.map Combinator.meaning := by
  obtain _ | ⟨_ | combinator, raw⟩ := gap <;> rfl

theorem meaning_gapTokens (after : Bool) (gap : Option Gap) :
    (Gap.tokens after gap).map Token.meaning =
      match Gap.found? gap with
      | some combinator => [combinator.meaning]
      | none => if (after && gap.isSome) = true then [Combinator.descendant.meaning] else [] := by
  obtain _ | ⟨_ | combinator, raw⟩ := gap <;> cases after <;> rfl

theorem addCombinator_of_found? (combinator : Combinator) (gap : Option Gap) :
    Gap.addCombinator combinator gap =
      match Gap.found? gap with
      | some _ => .error (.unexpected combinator.mark)
      | none => .ok ⟨some combinator, (gap.elim [] Gap.raw) ++ [combinator.mark]⟩ := by
  obtain _ | ⟨_ | combinator, raw⟩ := gap <;> rfl

theorem map_meaning_map {ε : Type} (outcome : Except ε (List Token))
    {step : List Token → List Token} {said : List (Kind × Text) → List (Kind × Text)}
    (same : ∀ tokens, (step tokens).map Token.meaning = said (tokens.map Token.meaning)) :
    (outcome.map step).map (List.map Token.meaning) =
      (outcome.map (List.map Token.meaning)).map said := by
  cases outcome with
  | error fault => rfl
  | ok tokens => exact congrArg Except.ok (same tokens)

section Joining

variable {after : Bool} {gap other : Option Gap} {pieces spaces : List Piece} {tokens : List Token}

theorem meaning_joinPieces_token (token : Token) :
    (joinPieces after gap (.token token :: pieces)).map (List.map Token.meaning) =
      if token.isComment then
        ((joinPieces after gap pieces).map (List.map Token.meaning)).map (token.meaning :: ·)
      else
        ((joinPieces true none pieces).map (List.map Token.meaning)).map
          ((Gap.tokens after gap).map Token.meaning ++ token.meaning :: ·) := by
  rw [joinPieces]
  split
  · exact map_meaning_map _ fun _ => rfl
  · exact map_meaning_map _ fun _ => by simp

theorem meaning_joinPieces (pieces : List Piece) (found : Gap.found? gap = Gap.found? other)
    (present : after = true → gap.isSome = other.isSome) :
    (joinPieces after gap pieces).map (List.map Token.meaning) =
      (joinPieces after other pieces).map (List.map Token.meaning) := by
  induction pieces generalizing gap other with
  | nil =>
      simp only [joinPieces, Except.map, meaning_closing, found]
  | cons piece pieces ih =>
      cases piece with
      | space blanks =>
          rw [joinPieces, joinPieces]
          apply ih
          · rw [found?_addBlanks, found?_addBlanks, found]
          · exact fun _ => rfl
      | combinator combinator =>
          rw [joinPieces, joinPieces, addCombinator_of_found?, addCombinator_of_found?, found]
          cases Gap.found? other with
          | some earlier => rfl
          | none => exact ih rfl fun _ => rfl
      | token token =>
          have gapTokens : (Gap.tokens after gap).map Token.meaning =
              (Gap.tokens after other).map Token.meaning := by
            rw [meaning_gapTokens, meaning_gapTokens, found]
            cases after with
            | true => rw [present rfl]
            | false => rfl
          rw [meaning_joinPieces_token, meaning_joinPieces_token, ih found present, gapTokens]

theorem meaning_joinPieces_spaces_append (each : ∀ piece ∈ spaces, piece.isSpace = true) :
    (joinPieces false gap (spaces ++ pieces)).map (List.map Token.meaning) =
      (joinPieces false gap pieces).map (List.map Token.meaning) := by
  induction spaces generalizing gap with
  | nil => rfl
  | cons piece spaces ih =>
      obtain ⟨first, others⟩ := List.forall_mem_cons.mp each
      cases piece with
      | space blanks =>
          rw [List.cons_append, joinPieces, ih others]
          exact meaning_joinPieces pieces (found?_addBlanks blanks gap) (by simp)
      | combinator combinator => cases first
      | token token => cases first

theorem joinPieces_spaces (after : Bool) (gap : Option Gap)
    (each : ∀ piece ∈ spaces, piece.isSpace = true) :
    ∃ final, Gap.found? final = Gap.found? gap ∧
      joinPieces after gap spaces = .ok (Gap.closing final) := by
  induction spaces generalizing gap with
  | nil => exact ⟨gap, rfl, rfl⟩
  | cons piece spaces ih =>
      obtain ⟨first, others⟩ := List.forall_mem_cons.mp each
      cases piece with
      | space blanks =>
          obtain ⟨final, same, joined⟩ := ih (some (Gap.addBlanks blanks gap)) others
          exact ⟨final, by rw [same, found?_addBlanks], by rw [joinPieces, joined]⟩
      | combinator combinator => cases first
      | token token => cases first

theorem meaning_joinPieces_append_spaces (each : ∀ piece ∈ spaces, piece.isSpace = true) :
    (joinPieces after gap (pieces ++ spaces)).map (List.map Token.meaning) =
      (joinPieces after gap pieces).map (List.map Token.meaning) := by
  induction pieces generalizing after gap with
  | nil =>
      obtain ⟨final, same, joined⟩ := joinPieces_spaces after gap each
      rw [List.nil_append, joined]
      simp only [joinPieces, Except.map, meaning_closing, same]
  | cons piece pieces ih =>
      cases piece with
      | space blanks => exact ih
      | combinator combinator =>
          rw [List.cons_append, joinPieces, joinPieces]
          cases Gap.addCombinator combinator gap with
          | error fault => rfl
          | ok gap => exact ih
      | token token =>
          rw [List.cons_append, meaning_joinPieces_token, meaning_joinPieces_token, ih, ih]

theorem exists_of_joinPieces_token {token : Token}
    (joined : joinPieces after gap (.token token :: pieces) = .ok tokens) :
    ∃ before rest next left, tokens = before ++ token :: rest ∧
      joinPieces next left pieces = .ok rest ∧ (token.isComment = false → left = none) := by
  rw [joinPieces] at joined
  split at joined
  · rename_i comment
    obtain ⟨rest, more, rfl⟩ := exists_of_map_eq_ok joined
    exact ⟨[], rest, after, gap, rfl, more, by simp [comment]⟩
  · obtain ⟨rest, more, rfl⟩ := exists_of_map_eq_ok joined
    exact ⟨Gap.tokens after gap, rest, true, none, rfl, more, fun _ => rfl⟩

theorem exists_of_joinPieces_combinator {combinator : Combinator}
    (joined : joinPieces after gap (.combinator combinator :: pieces) = .ok tokens) :
    ∃ left, joinPieces after left pieces = .ok tokens := by
  rw [joinPieces] at joined
  split at joined
  · cases joined
  · exact ⟨_, joined⟩

theorem mem_of_joinPieces (joined : joinPieces after gap pieces = .ok tokens) {token : Token}
    (member : .token token ∈ pieces) : token ∈ tokens := by
  induction pieces generalizing after gap tokens with
  | nil => cases member
  | cons piece pieces ih =>
      cases piece with
      | space blanks =>
          rw [joinPieces] at joined
          exact ih joined (by simpa using member)
      | combinator combinator =>
          obtain ⟨left, more⟩ := exists_of_joinPieces_combinator joined
          exact ih more (by simpa using member)
      | token first =>
          obtain ⟨before, rest, next, left, rfl, more, _⟩ := exists_of_joinPieces_token joined
          rcases List.mem_cons.mp member with same | member
          · cases same
            simp
          · simp [ih more member]

theorem getLast?_joinPieces {token : Token} (named : token.isComment = false)
    (each : ∀ piece ∈ spaces, piece.isSpace = true)
    (joined : joinPieces after gap (pieces ++ .token token :: spaces) = .ok tokens) :
    tokens.getLast? = some token := by
  induction pieces generalizing after gap tokens with
  | nil =>
      obtain ⟨before, rest, next, left, rfl, more, nothing⟩ := exists_of_joinPieces_token joined
      obtain ⟨final, same, ended⟩ := joinPieces_spaces next left each
      rw [nothing named] at same
      have closed : Gap.closing final = [] := by
        obtain _ | ⟨_ | combinator, raw⟩ := final
        · rfl
        · rfl
        · cases same
      rw [ended, closed] at more
      cases more
      simp
  | cons piece pieces ih =>
      cases piece with
      | space blanks => exact ih joined
      | combinator combinator =>
          obtain ⟨left, more⟩ := exists_of_joinPieces_combinator joined
          exact ih more
      | token first =>
          obtain ⟨before, rest, next, left, rfl, more, _⟩ := exists_of_joinPieces_token joined
          have last := ih more
          rw [List.getLast?_append, List.getLast?_cons, last]
          rfl

end Joining

/-! ### Selectors without the blanks around them -/

/-- The last token does not end in a blank of its own. A combinator may, as it is written with the
blanks around it. -/
def Selector.EndsVisibly (selector : Selector) : Prop :=
  ∀ token ∈ selector.tokens.getLast?, token.combinator? = none →
    ∀ c ∈ token.raw.getLast?, isBlank c = false

def Selector.endsVisibly (selector : Selector) : Bool :=
  selector.tokens.getLast?.all fun token =>
    token.combinator?.isSome || token.raw.getLast?.all fun c => !isBlank c

theorem endsVisibly_iff {selector : Selector} :
    selector.endsVisibly = true ↔ selector.EndsVisibly := by
  simp [Selector.endsVisibly, Selector.EndsVisibly, Option.all_eq_true, or_iff_not_imp_left]

instance (selector : Selector) : Decidable selector.EndsVisibly :=
  decidable_of_iff _ endsVisibly_iff

theorem allBlank_sources {pieces : List Piece} (each : ∀ piece ∈ pieces, piece.isSpace = true)
    (wellFormed : ∀ piece ∈ pieces, piece.WellFormed) : AllBlank (Piece.sources pieces) := by
  intro c member
  obtain ⟨piece, inside, source⟩ := List.mem_flatMap.mp member
  have space := each piece inside
  have blank := wellFormed piece inside
  cases piece with
  | space blanks => exact blank c source
  | combinator combinator => cases space
  | token token => cases space

theorem exists_source_of_not_space {piece : Piece} (visible : piece.isSpace = false)
    (wellFormed : piece.WellFormed) :
    ∃ c rest, piece.source = c :: rest ∧ isBlank c = false := by
  cases piece with
  | space blanks => cases visible
  | token token => exact wellFormed.1
  | combinator combinator =>
      refine ⟨combinator.mark, [], rfl, ?_⟩
      cases combinator with
      | descendant => exact absurd rfl wellFormed
      | child | nextSibling | subsequentSibling => rfl

theorem trimmed_sources {core : List Piece} (wellFormed : ∀ piece ∈ core, piece.WellFormed)
    (first : ∀ piece ∈ core.head?, piece.isSpace = false)
    (last : ∀ piece ∈ core.getLast?, piece.isSpace = false)
    (visible : ∀ token, core.getLast? = some (.token token) → token.isComment = false →
      ∀ c ∈ token.raw.getLast?, isBlank c = false) : Trimmed (Piece.sources core) := by
  constructor
  · cases core with
    | nil => simp [Piece.sources]
    | cons piece others =>
        obtain ⟨c, rest, source, shown⟩ := exists_source_of_not_space (first piece rfl)
          (wellFormed piece List.mem_cons_self)
        simp [Piece.sources, source, shown]
  · obtain rfl | ⟨others, piece, rfl⟩ := core.eq_nil_or_concat'
    · simp [Piece.sources]
    · have member : piece ∈ others ++ [piece] := by simp
      have final : (others ++ [piece]).getLast? = some piece := by simp
      have whole := wellFormed piece member
      obtain ⟨c, rest, source, shown⟩ := exists_source_of_not_space (last piece final) whole
      have ending : (Piece.sources (others ++ [piece])).getLast? = piece.source.getLast? := by
        simp [Piece.sources, source, List.getLast?_append, List.getLast?_cons]
      rw [ending]
      cases piece with
      | space blanks => cases last _ final
      | combinator combinator =>
          cases source
          simpa [Piece.source] using shown
      | token token =>
          cases comment : token.isComment with
          | true =>
              rw [Piece.source, whole.2.2 comment]
              rintro _ ⟨⟩
              decide
          | false => exact visible token final comment

/-- The text of a selector without the blanks around it reads as the same selector. -/
theorem exists_core {t final : Text} {group : List Piece} {selector : Selector}
    (read : ReadsTo t group final) (joined : Selector.ofPieces group = .ok selector)
    (visible : selector.EndsVisibly) :
    ∃ core, ReadsTo (trim (Piece.sources group)) core [] ∧
      (joinPieces false none core).map (List.map Token.meaning) = .ok selector.meaning := by
  obtain ⟨tokens, -⟩ := ofPieces_eq_ok_iff.mp joined
  obtain ⟨before, core, after, rfl, -, leading, trailing, first, last⟩ :=
    exists_stripped Piece.isSpace group
  have wellFormed := read.wellFormed
  simp only [List.forall_mem_append] at wellFormed
  obtain ⟨formedBefore, formedCore, formedAfter⟩ := wellFormed
  have trimmed : Trimmed (Piece.sources core) := by
    apply trimmed_sources formedCore first last
    intro token ending named
    obtain ⟨others, rfl⟩ := List.getLast?_eq_some_iff.mp ending
    have regrouped : before ++ (others ++ [.token token] ++ after) =
        before ++ others ++ .token token :: after := by simp
    rw [regrouped] at tokens
    have lastToken : selector.tokens.getLast? = some token :=
      getLast?_joinPieces named trailing tokens
    have plain := (formedCore (.token token) (by simp)).2.1
    exact visible token lastToken plain
  have middle : trim (Piece.sources (before ++ (core ++ after))) = Piece.sources core := by
    simp only [Piece.sources, List.flatMap_append]
    exact trim_of_blanks (allBlank_sources leading formedBefore)
      (allBlank_sources trailing formedAfter) trimmed
  obtain ⟨rest, -, readRest⟩ := read.exists_of_append
  obtain ⟨left, readCore, -⟩ := readRest.exists_of_append
  refine ⟨core, ?_, ?_⟩
  · rw [middle]
    exact ReadsTo.cut (u := []) readCore readCore.sources_append.symm
  · rw [← meaning_joinPieces_append_spaces trailing,
      ← meaning_joinPieces_spaces_append leading, tokens]
    rfl

/-- What agreement asks of a selector. -/
structure Selector.Scannable (selector : Selector) : Prop where
  enclosed : ∀ token ∈ selector.tokens, Enclosed false token.raw
  visible : selector.EndsVisibly

def Selector.isScannable (selector : Selector) : Bool :=
  selector.tokens.all (fun token => decide (Enclosed false token.raw)) &&
    selector.tokens.getLast?.all fun token =>
      token.combinator?.isSome || token.raw.getLast?.all fun c => !isBlank c

theorem isScannable_iff {selector : Selector} :
    selector.isScannable = true ↔ selector.Scannable := by
  rw [Selector.isScannable, Bool.and_eq_true, ← Selector.endsVisibly, endsVisibly_iff,
    List.all_eq_true]
  simp only [decide_eq_true_eq]
  exact ⟨fun ⟨enclosed, visible⟩ => ⟨enclosed, visible⟩,
    fun ⟨enclosed, visible⟩ => ⟨enclosed, visible⟩⟩

instance (selector : Selector) : Decidable selector.Scannable := decidable_of_iff _ isScannable_iff

/-- The text is that of one selector, with the kinds and values of the given one. -/
def Selector.SaidBy (selector : Selector) (t : Text) : Prop :=
  ∃ other, Selector.parseList t = .ok [other] ∧ other.meaning = selector.meaning

theorem passedOver_source {t final : Text} {group : List Piece} {selector : Selector}
    (read : ReadsTo t group final) (joined : Selector.ofPieces group = .ok selector)
    (scannable : selector.Scannable) : ∀ piece ∈ group, PassedOver piece.source := by
  intro piece member
  cases piece with
  | space blanks =>
      exact passedOver_iff_enclosed.mpr (enclosed_of_blanks (read.wellFormed _ member))
  | combinator combinator => cases combinator <;> decide
  | token token =>
      have kept := mem_of_joinPieces (ofPieces_eq_ok_iff.mp joined).1 member
      exact passedOver_iff_enclosed.mpr (scannable.enclosed token kept)

theorem saidBy_trim {t final : Text} {group : List Piece} {selector : Selector}
    (read : ReadsTo t group final) (joined : Selector.ofPieces group = .ok selector)
    (visible : selector.EndsVisibly) : selector.SaidBy (trim (Piece.sources group)) := by
  obtain ⟨-, nonempty⟩ := ofPieces_eq_ok_iff.mp joined
  obtain ⟨core, whole, meaning⟩ := exists_core read joined visible
  obtain ⟨tokens, found, same⟩ := exists_of_map_eq_ok meaning
  refine ⟨⟨tokens⟩, parseList_eq_ok_iff.mpr ⟨[core], readPieces_of_readsTo_nil whole, ?_⟩, same⟩
  refine .cons (ofPieces_eq_ok_iff.mpr ⟨found, ?_⟩) .nil
  rintro rfl
  exact nonempty (List.map_eq_nil_iff.mp same.symm)

theorem ne_nil_of_saidBy {selector : Selector} {t : Text} (said : selector.SaidBy t) : t ≠ [] := by
  rintro rfl
  obtain ⟨other, read, -⟩ := said
  have refused : Selector.parseList [] = .error ⟨.empty, []⟩ := by
    simp only [Selector.parseList, Selector.readList, readPieces]
    rfl
  rw [refused] at read
  cases read

theorem exists_readsTo_of_mem {t : Text} {groups : List (List Piece)}
    (read : readPieces t = .ok groups) : ∀ group ∈ groups, ∃ s final, ReadsTo s group final := by
  induction groups generalizing t with
  | nil => simp
  | cons group groups ih =>
      obtain ⟨_, _, same, ended | ⟨rest, divided, following⟩⟩ := exists_readsTo read
      · obtain ⟨whole, rfl⟩ := ended
        cases same
        simpa using ⟨t, [], whole⟩
      · cases same
        exact List.forall_mem_cons.mpr ⟨⟨t, _, divided⟩, ih following⟩

theorem forall_mem_of_forall₂ {α β : Type} {R : α → β → Prop} {p : α → Prop} {items : List α}
    {others : List β} (each : List.Forall₂ R items others) (holds : ∀ a b, R a b → p a) :
    ∀ a ∈ items, p a := by
  have both := each.imp fun a b related => And.intro (holds a b related) related
  exact ((List.forall₂_and_left _ _).mp both).1

/-- The scan gives one text for each selector that the reader finds, and each text reads as its
selector, where every token encloses its commas and no selector ends in a blank of its own. -/
theorem selectorTexts_agree (raw : Text) (selectors : List Selector)
    (read : Selector.parseList raw = .ok selectors)
    (scannable : ∀ selector ∈ selectors, selector.Scannable) :
    List.Forall₂ (fun entry selector => Selector.SaidBy selector entry) (selectorTexts raw)
      selectors := by
  obtain ⟨groups, pieces, joined⟩ := parseList_eq_ok_iff.mp read
  -- each group with its selector, how it was read, and what is asked of the selector
  have each : List.Forall₂ (fun group selector => (∃ s final, ReadsTo s group final) ∧
      selector.Scannable ∧ Selector.ofPieces group = .ok selector) groups selectors :=
    (List.forall₂_and_left _ _).mpr ⟨exists_readsTo_of_mem pieces,
      .flip ((List.forall₂_and_left _ _).mpr ⟨scannable, .flip joined⟩)⟩
  have passed : ∀ group ∈ groups, ∀ piece ∈ group, PassedOver piece.source := by
    refine forall_mem_of_forall₂ each ?_
    rintro group selector ⟨⟨s, final, found⟩, well, join⟩
    exact passedOver_source found join well
  have said : List.Forall₂ (fun entry selector => Selector.SaidBy selector entry)
      (groups.map fun group => trim (Piece.sources group)) selectors := by
    refine List.forall₂_map_left_iff.mpr (each.imp ?_)
    rintro group selector ⟨⟨s, final, found⟩, well, join⟩
    exact saidBy_trim found join well.visible
  have nonempty : ∀ entry ∈ groups.map fun group => trim (Piece.sources group), entry ≠ [] :=
    forall_mem_of_forall₂ said fun _ _ => ne_nil_of_saidBy
  rw [selectorTexts_eq_between, between_of_readPieces pieces passed, List.map_map,
    List.filter_eq_self.mpr]
  · exact said
  · simpa using nonempty

theorem selectorTexts_agree_brackets_and_quotes :
    List.Forall₂ (fun entry selector => Selector.SaidBy selector entry)
      (selectorTexts ".a:is(.b, .c) > p, [title=\"x,y\"]\n, .\\,")
      [⟨[⟨.className, "a", ".a"⟩, ⟨.pseudoClass, ":is", ":is(.b, .c)"⟩,
          ⟨.combinator .child, ">", " > "⟩, ⟨.tag, "p", "p"⟩]⟩,
        ⟨[⟨.attribute, "title", "[title=\"x,y\"]"⟩]⟩,
        ⟨[⟨.className, ",", ".\\,"⟩]⟩] :=
  selectorTexts_agree _ _ (by decide +kernel) (by decide)

/-- A comment hides its commas from the reader and not from the scan: one selector becomes two
texts, of which the first is no selector. -/
theorem selectorTexts_disagree_comment :
    Selector.parseList ".a/*,*/.b" =
        .ok [⟨[⟨.className, "a", ".a"⟩, ⟨.comment, ",", "/*,*/"⟩, ⟨.className, "b", ".b"⟩]⟩] ∧
      selectorTexts ".a/*,*/.b" = [".a/*", "*/.b"] ∧
      Selector.parseList ".a/*" = .error ⟨.unterminated .comment, ".a/*"⟩ := by
  decide +kernel

end ClassLint
