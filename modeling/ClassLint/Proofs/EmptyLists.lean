import ClassLint.Proofs.CommaLists
import ClassLint.Proofs.Continuation
import ClassLint.Proofs.Diagnosis

/-! Lists that hold no selector. Such a list is commas and blanks, and where it is not blank it ends
in a comma that nothing takes in: it cannot be read, whatever it is put behind. -/

namespace ClassLint

/-- Nothing but commas and blanks. -/
def ListsNothing (t : Text) : Prop := ∀ c ∈ t, c = ',' ∨ isBlank c = true

instance (t : Text) : Decidable (ListsNothing t) :=
  decidable_of_iff (t.all fun c => c = ',' || isBlank c) (by simp [ListsNothing])

/-! ### No selector between the commas -/

namespace CommaScan

theorem mem_between {c : Char} {t : Text} (member : c ∈ t) (scan : CommaScan) :
    c = ',' ∨ ∃ part ∈ scan.between t, c ∈ part := by
  induction t generalizing scan with
  | nil => cases member
  | cons d rest ih =>
      obtain ⟨first, others, same⟩ :=
        List.exists_cons_of_ne_nil (between_ne_nil (scan.step d) rest)
      have later (inside : c ∈ rest) : c = ',' ∨ c ∈ first ∨ ∃ part ∈ others, c ∈ part := by
        simpa [same] using ih inside (scan.step d)
      rw [between, same]
      cases divided : scan.divides d with
      | true =>
          rcases List.mem_cons.mp member with rfl | inside
          · left
            simp only [divides, Bool.and_eq_true, decide_eq_true_eq] at divided
            exact divided.1.1.1
          · simpa using later inside
      | false =>
          rcases List.mem_cons.mp member with rfl | inside
          · simp [prepend]
          · rcases later inside with comma | here | ⟨part, found, there⟩
            · exact .inl comma
            · exact .inr ⟨[d] ++ first, by simp [prepend], by simp [here]⟩
            · exact .inr ⟨part, by simp [prepend, found], there⟩

theorem between_of_listsNothing {t : Text} (nothing : ListsNothing t) :
    ∀ part ∈ start.between t, AllBlank part := by
  induction t with
  | nil => simp [between, allBlank_nil]
  | cons c rest ih =>
      obtain ⟨first, others⟩ := List.forall_mem_cons.mp nothing
      have later := ih others
      rcases first with rfl | blank
      · have divided : start.between (',' :: rest) = [] :: start.between rest := rfl
        rw [divided]
        exact List.forall_mem_cons.mpr ⟨allBlank_nil, later⟩
      · have single : AllBlank [c] := by simpa [AllBlank] using blank
        have passed : PassedOver [c] := passedOver_iff_enclosed.mpr (enclosed_of_blanks single)
        have whole : start.between (c :: rest) = prepend [c] (start.between rest) :=
          between_append passed rest
        obtain ⟨part, parts, same⟩ := List.exists_cons_of_ne_nil (between_ne_nil start rest)
        rw [same] at later
        obtain ⟨here, there⟩ := List.forall_mem_cons.mp later
        rw [whole, same]
        exact List.forall_mem_cons.mpr ⟨allBlank_append.mpr ⟨single, here⟩, there⟩

end CommaScan

theorem selectorTexts_eq_nil_iff (raw : Text) : selectorTexts raw = [] ↔ ListsNothing raw := by
  have parts : selectorTexts raw = [] ↔ ∀ part ∈ CommaScan.start.between raw, AllBlank part := by
    rw [selectorTexts_eq_between, List.filter_eq_nil_iff, List.forall_mem_map]
    simp [trim_eq_nil_iff]
  rw [parts]
  constructor
  · intro blank c member
    rcases CommaScan.mem_between member .start with comma | ⟨part, found, inside⟩
    · exact .inl comma
    · exact .inr (blank part found c inside)
  · exact CommaScan.between_of_listsNothing

/-! ### Texts that end in a comma -/

/-- The text ends in a comma with no backslash before it. -/
def EndsInComma (t : Text) : Prop := ∃ front, t = front ++ [','] ∧ '\\' ∉ front.getLast?

theorem EndsInComma.getLast? {t : Text} (ends : EndsInComma t) : t.getLast? = some ',' := by
  obtain ⟨front, rfl, -⟩ := ends
  exact List.getLast?_concat

theorem EndsInComma.of_append {s t : Text} (ends : EndsInComma (s ++ t)) (nonempty : t ≠ []) :
    EndsInComma t := by
  obtain ⟨front, same, unescaped⟩ := ends
  obtain ⟨inner, c, rfl⟩ := (List.eq_nil_or_concat' t).resolve_left nonempty
  rw [← List.append_assoc] at same
  obtain ⟨rfl, last⟩ := List.append_inj' same rfl
  refine ⟨inner, by rw [last], fun escaped => unescaped ?_⟩
  rw [Option.mem_def] at escaped ⊢
  rw [List.getLast?_append, escaped]
  rfl

theorem not_endsInComma_append {s t : Text} (first : ¬EndsInComma s) (second : ¬EndsInComma t) :
    ¬EndsInComma (s ++ t) := by
  intro ends
  cases t with
  | nil => exact first (by simpa using ends)
  | cons c rest => exact second (ends.of_append (List.cons_ne_nil c rest))

theorem not_endsInComma_of_getLast? {t : Text} {c : Char} (last : t.getLast? = some c)
    (other : c ≠ ',') : ¬EndsInComma t := by
  intro ends
  rw [ends.getLast?] at last
  exact other (Option.some.inj last).symm

theorem not_endsInComma_nil : ¬EndsInComma [] := by
  rintro ⟨front, same, -⟩
  simp at same

theorem not_endsInComma_cons {c : Char} {t : Text} (other : c ≠ ',') (rest : ¬EndsInComma t) :
    ¬EndsInComma (c :: t) :=
  not_endsInComma_append (not_endsInComma_of_getLast? (t := [c]) rfl other) rest

theorem takeGroup_not_endsInComma {bracket : Bracket} {depth : Nat} {t : Text} {taken : Taken}
    (other : bracket.closing ≠ ',') (read : takeGroup bracket none depth t = .ok taken) :
    ¬EndsInComma taken.1 :=
  not_endsInComma_of_getLast? (getLast?_of_takeGroup read) other

/-- A comma in a name stands in an interpolation or behind a backslash. -/
theorem takeName_not_endsInComma {t : Text} {name : Name} (read : takeName t = .ok name) :
    ¬EndsInComma name.raw := by
  fun_induction takeName t generalizing name
  case case1 c rest ih =>
    obtain ⟨inner, tail, rfl⟩ := exists_of_map_eq_ok read
    have escape : ¬EndsInComma ['\\', c] := by
      rintro ⟨front, same, unescaped⟩
      have halves : ['\\'] ++ [c] = front ++ [','] := same
      obtain ⟨rfl, -⟩ := List.append_inj' halves rfl
      exact unescaped rfl
    exact not_endsInComma_append escape (ih tail)
  case case2 => cases read
  case case3 => cases read
  case case4 rest taken found _ group ih =>
    obtain ⟨inner, tail, rfl⟩ := exists_of_map_eq_ok read
    have closed := takeGroup_not_endsInComma (by decide) found
    have grouped : ¬EndsInComma group :=
      not_endsInComma_cons (by decide) (not_endsInComma_cons (by decide) closed)
    exact not_endsInComma_append grouped (ih tail)
  case case5 c rest _ _ _ character ih =>
    obtain ⟨inner, tail, rfl⟩ := exists_of_map_eq_ok read
    have other : c ≠ ',' := by
      rintro rfl
      exact absurd character (by decide)
    exact not_endsInComma_append (not_endsInComma_of_getLast? (t := [c]) rfl other) (ih tail)
  case case6 | case7 =>
    cases read
    exact not_endsInComma_nil

section Readers

variable {rest after : Text} {piece : Piece}

theorem readAttribute_not_endsInComma (read : readAttribute rest = .ok (piece, after)) :
    ¬EndsInComma piece.source := by
  unfold readAttribute at read
  split at read
  · cases read
  · rename_i group found
    have closed := takeGroup_not_endsInComma (by decide) found
    grind [Piece.source, not_endsInComma_cons]

theorem readPseudo_not_endsInComma {colons : Text} (other : ¬EndsInComma colons)
    (read : readPseudo colons rest = .ok (piece, after)) : ¬EndsInComma piece.source := by
  unfold readPseudo at read
  split at read
  · cases read
  · rename_i name named
    have value : ¬EndsInComma (colons ++ name.raw) :=
      not_endsInComma_append other (takeName_not_endsInComma named)
    split at read
    · cases read
    · simp only at read
      split at read
      · split at read
        · cases read
        · rename_i group found
          have closed := takeGroup_not_endsInComma (by decide) found
          cases read
          exact not_endsInComma_append value (not_endsInComma_cons (by decide) closed)
      · cases read
        exact value

theorem readComment_not_endsInComma (read : readComment rest = .ok (piece, after)) :
    ¬EndsInComma piece.source := by
  unfold readComment at read
  split at read
  · split at read
    · cases read
      apply not_endsInComma_of_getLast? (c := '/') _ (by decide)
      rw [Piece.source, List.getLast?_append]
      rfl
    · cases read
  · cases read

theorem readToken_not_endsInComma {c : Char} (inside : c ≠ ',')
    (read : readToken c rest = .ok (piece, after)) : ¬EndsInComma piece.source := by
  have colon : ¬EndsInComma [':'] := not_endsInComma_of_getLast? rfl (by decide)
  unfold readToken at read
  split at read
  case h_6 => exact readAttribute_not_endsInComma read
  case h_7 => exact readPseudo_not_endsInComma (not_endsInComma_cons (by decide) colon) read
  case h_8 => exact readPseudo_not_endsInComma colon read
  case h_9 => exact readComment_not_endsInComma read
  all_goals
    grind [readMarked, readTag, readNesting, readPlaceholder, Piece.source,
      → takeName_not_endsInComma, not_endsInComma_cons, not_endsInComma_nil]

theorem readPiece_not_endsInComma {c : Char} (inside : c ≠ ',')
    (read : readPiece c rest = .ok (piece, after)) : ¬EndsInComma piece.source := by
  have formed := wellFormed_of_readPiece read
  unfold readPiece at read
  split at read
  · cases read
    intro ends
    have blank := formed ',' (List.mem_of_mem_getLast? ends.getLast?)
    exact absurd blank (by decide)
  · split at read
    · rename_i combinator found
      cases read
      rw [Piece.source, Combinator.mark_of_ofMark? found]
      exact not_endsInComma_of_getLast? rfl inside
    · exact readToken_not_endsInComma inside read

end Readers

/-- The comma at the end divides, and nothing is behind it. The group behind it is none that a piece
in front can still be put into. -/
theorem nil_mem_tail_of_readPieces {t : Text} {groups : List (List Piece)}
    (ends : EndsInComma t) (read : readPieces t = .ok groups) : [] ∈ groups.tail := by
  fun_induction readPieces t generalizing groups
  case case1 => exact absurd ends not_endsInComma_nil
  case case2 rest ih =>
    obtain ⟨others, following, rfl⟩ := exists_of_map_eq_ok read
    cases rest with
    | nil =>
        rw [readPieces] at following
        cases following
        exact List.mem_cons_self
    | cons c rest =>
        have later : EndsInComma (c :: rest) :=
          EndsInComma.of_append (s := [',']) ends (List.cons_ne_nil c rest)
        exact List.mem_of_mem_tail (ih later following)
  case case3 => cases read
  case case4 c rest inside piece after found _ ih =>
    obtain ⟨others, following, rfl⟩ := exists_of_map_eq_ok read
    rw [← readPiece_append found] at ends
    have left : after ≠ [] := by
      rintro rfl
      rw [List.append_nil] at ends
      exact readPiece_not_endsInComma inside found ends
    have tails : (consPiece piece others).tail = others.tail := by cases others <;> rfl
    rw [tails]
    exact ih (ends.of_append left) following

theorem exists_parseList_error {t : Text} (ends : EndsInComma t) :
    ∃ fault, Selector.parseList t = .error ⟨fault, t⟩ := by
  have refused : ¬∃ selectors, Selector.parseList t = .ok selectors := by
    intro accepted
    obtain ⟨groups, read, each⟩ := (exists_parseList_iff t).mp accepted
    have nothing : [] ∈ groups := List.mem_of_mem_tail (nil_mem_tail_of_readPieces ends read)
    obtain ⟨selector, empty⟩ := each [] nothing
    cases empty
  rw [Selector.parseList] at refused ⊢
  cases read : Selector.readList t with
  | error fault => exact ⟨fault, rfl⟩
  | ok selectors => exact absurd ⟨selectors, by rw [read]; rfl⟩ refused

/-! ### Rules that list nothing -/

theorem ListsNothing.endsInComma {t : Text} (nothing : ListsNothing t) (trimmed : Trimmed t)
    (nonempty : t ≠ []) {front : Text} (unescaped : '\\' ∉ front.getLast?) :
    EndsInComma (front ++ t) := by
  obtain ⟨inner, last, rfl⟩ := (List.eq_nil_or_concat' t).resolve_left nonempty
  have visible := trimmed.last last List.getLast?_concat
  obtain rfl : last = ',' := (nothing last (by simp)).resolve_right (by simp [visible])
  refine ⟨front ++ inner, (List.append_assoc _ _ _).symm, ?_⟩
  rw [List.getLast?_append]
  cases ending : inner.getLast? with
  | none => exact unescaped
  | some c =>
      rintro ⟨⟩
      have inside := nothing '\\' (List.mem_append_left _ (List.mem_of_mem_getLast? ending))
      exact absurd inside (by decide)

theorem exists_standaloneText_eq {placement : Placement}
    (plain : hasNesting placement.1.selector = false) :
    ∃ front, standaloneText placement = front ++ placement.1.selector ∧
      '\\' ∉ front.getLast? := by
  rw [standaloneText, answers_resolveFirst _ _ .empty]
  cases first : (resolutions placement.1.selector (.ofAncestors placement.2)).head? with
  | none => exact ⟨[], rfl, by simp⟩
  | some resolved =>
      cases lineage : Lineage.ofAncestors placement.2 with
      | nil =>
          rw [lineage] at first
          cases first
          exact ⟨[], rfl, by simp⟩
      | cons parents outer =>
          rw [lineage, resolutions] at first
          obtain ⟨parent, -, rfl⟩ := List.mem_map.mp (List.mem_of_mem_head? first)
          rw [placeBelow_of_plain _ plain]
          exact ⟨parent ++ [' '], by simp [joinDescendant], by simp⟩

/-- Wherever it stands, a style rule that lists nothing cannot be read. -/
theorem standaloneSelectors_of_listsNothing {placement : Placement}
    (nothing : ListsNothing placement.1.selector) (trimmed : Trimmed placement.1.selector)
    (nonempty : placement.1.selector ≠ []) :
    ∃ fault, standaloneSelectors placement = .error ⟨fault, standaloneText placement⟩ := by
  have plain : hasNesting placement.1.selector = false := by
    rw [Bool.eq_false_iff, ne_eq, hasNesting_iff]
    intro member
    exact absurd (nothing '&' member) (by decide)
  obtain ⟨front, whole, unescaped⟩ := exists_standaloneText_eq plain
  rw [standaloneSelectors, whole]
  exact exists_parseList_error (nothing.endsInComma trimmed nonempty unescaped)

end ClassLint
