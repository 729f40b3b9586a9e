import ClassLint.Proofs.Continuation
import ClassLint.Proofs.Independence
import ClassLint.Proofs.Letters
import ClassLint.Proofs.SelectorWriting

/-! Style rules inside keyframes. They are flattened and read like all others: the words of a
keyframe list are read as tags, and a percentage cannot be read at all. -/

namespace ClassLint

/-! ### Lists of keyframes -/

structure Digits where
  first : Char
  others : Text
  isDigit : ∀ c ∈ first :: others, c.isDigit = true

/-- The point in time that a keyframe is for. -/
inductive Keyframe where
  | start
  | finish
  | percentage (whole : Digits) (fraction? : Option Digits)

/-- Blanks of the first 128 characters. -/
abbrev Padding := { blanks : Text // ∀ c ∈ blanks, isBlank c = true ∧ c.toNat < 128 }

structure KeyframeEntry where
  before : Padding
  keyframe : Keyframe
  behind : Padding

/-- A comma separated list, with perhaps blanks around its entries. -/
structure KeyframeList where
  first : KeyframeEntry
  others : List KeyframeEntry

def Digits.text (digits : Digits) : Text := digits.first :: digits.others

def Keyframe.text : Keyframe → Text
  | .start => "from"
  | .finish => "to"
  | .percentage whole none => whole.text ++ ['%']
  | .percentage whole (some fraction) => whole.text ++ '.' :: (fraction.text ++ ['%'])

def KeyframeEntry.text (entry : KeyframeEntry) : Text :=
  entry.before.1 ++ (entry.keyframe.text ++ entry.behind.1)

def KeyframeList.text (list : KeyframeList) : Text :=
  list.first.text ++ list.others.flatMap fun entry => ',' :: entry.text

theorem KeyframeList.text_singleton (first : KeyframeEntry) :
    KeyframeList.text ⟨first, []⟩ = first.text := List.append_nil _

theorem KeyframeList.text_cons (first second : KeyframeEntry) (others : List KeyframeEntry) :
    KeyframeList.text ⟨first, second :: others⟩ =
      first.text ++ ',' :: KeyframeList.text ⟨second, others⟩ := rfl

theorem exists_text_eq_space (list : KeyframeList) :
    ∃ other : KeyframeList, other.text = ' ' :: list.text := by
  obtain ⟨⟨before, keyframe, behind⟩, others⟩ := list
  have blank : ∀ c ∈ ' ' :: before.1, isBlank c = true ∧ c.toNat < 128 :=
    List.forall_mem_cons.mpr ⟨by decide, before.2⟩
  exact ⟨⟨⟨⟨' ' :: before.1, blank⟩, keyframe, behind⟩, others⟩, rfl⟩

theorem Padding.allBlank (padding : Padding) : AllBlank padding.1 :=
  fun c member => (padding.2 c member).1

theorem not_alpha_or_digit_of_isBlank {c : Char} (blank : isBlank c = true) :
    c.isAlpha = false ∧ c.isDigit = false := by
  have other := isAlphanum_of_isBlank blank
  rwa [Char.isAlphanum, Bool.or_eq_false_iff] at other

theorem Padding.find?_isDigit (padding : Padding) : padding.1.find? Char.isDigit = none := by
  rw [List.find?_eq_none]
  intro c member
  rw [(not_alpha_or_digit_of_isBlank (padding.allBlank c member)).2]
  exact Bool.false_ne_true

theorem Padding.not_startsName (padding : Padding) {rest : Text} (stops : ¬StartsName rest) :
    ¬StartsName (padding.1 ++ rest) := by
  obtain ⟨blanks, blank⟩ := padding
  cases blanks with
  | nil => exact stops
  | cons c blanks =>
      obtain ⟨first, narrow⟩ := blank c List.mem_cons_self
      have other := not_alpha_or_digit_of_isBlank first
      rw [List.cons_append, startsName_cons_iff]
      rintro (⟨rfl, -⟩ | character | rfl)
      · exact absurd first (by decide)
      · simp only [isNameCharacter, isNameStart, other, Bool.or_eq_true, Bool.false_eq_true,
          decide_eq_true_eq, false_or, or_false] at character
        rcases character with (rfl | wide) | rfl
        · exact absurd first (by decide)
        · omega
        · exact absurd first (by decide)
      · exact absurd first (by decide)

/-! ### Reading words -/

def OnlyBlanks (pieces : List Piece) : Prop := pieces = [] ∨ ∃ blanks, pieces = [.space blanks]

theorem Padding.exists_readsTo (padding : Padding) {rest : Text}
    (visible : ∀ c ∈ rest.head?, isBlank c = false) :
    ∃ pieces, ReadsTo (padding.1 ++ rest) pieces rest ∧ OnlyBlanks pieces := by
  by_cases empty : padding.1 = []
  · rw [empty]
    exact ⟨[], .done rest, .inl rfl⟩
  · exact ⟨_, reads_blanks empty padding.allBlank visible, .inr ⟨_, rfl⟩⟩

theorem joinAnywhere_append {before pieces : List Piece} (blanks : OnlyBlanks before)
    (anywhere : JoinAnywhere pieces) : JoinAnywhere (before ++ pieces) := by
  rcases blanks with rfl | ⟨blanks, rfl⟩
  · exact anywhere
  · intro after gap
    exact anywhere after (some (Gap.addBlanks blanks gap))

theorem joinAnywhere_token {token : Token} {behind : List Piece} (named : token.isComment = false)
    (blanks : OnlyBlanks behind) : JoinAnywhere (.token token :: behind) := by
  intro after gap
  have closed : joinPieces true none behind = .ok [] := by
    rcases blanks with rfl | ⟨blanks, rfl⟩ <;> rfl
  rw [joinPieces, if_neg (by simp [named]), closed]
  exact ⟨_, rfl, by simp⟩

def Keyframe.isWord : Keyframe → Bool
  | .start | .finish => true
  | .percentage _ _ => false

theorem readsTo_word {keyframe : Keyframe} (word : keyframe.isWord = true) {rest : Text}
    (stops : ¬StartsName rest) :
    ReadsTo (keyframe.text ++ rest) [.token ⟨.tag, keyframe.text, keyframe.text⟩] rest := by
  have tag : readTag (keyframe.text ++ rest) =
      .ok (.token ⟨.tag, keyframe.text, keyframe.text⟩, rest) := by
    have plain : escapeName keyframe.text = keyframe.text := by
      cases keyframe with
      | start | finish => decide
      | percentage => cases word
    have name := takeName_escapeName keyframe.text stops
    rw [plain] at name
    rw [readTag, name]
  cases keyframe with
  | start => exact .piece (by decide) tag (.done rest)
  | finish => exact .piece (by decide) tag (.done rest)
  | percentage => cases word

theorem KeyframeEntry.exists_readsTo {entry : KeyframeEntry} (word : entry.keyframe.isWord = true)
    {rest : Text} (ends : EndsSelector rest) :
    ∃ pieces, ReadsTo (entry.text ++ rest) pieces rest ∧ JoinAnywhere pieces := by
  obtain ⟨before, keyframe, behind⟩ := entry
  have visible (more : Text) : ∀ c ∈ (keyframe.text ++ more).head?, isBlank c = false := by
    cases keyframe with
    | start | finish => simp [Keyframe.text, isBlank]
    | percentage => cases word
  obtain ⟨trailing, readTrailing, blankTrailing⟩ := behind.exists_readsTo ends.blank
  obtain ⟨leading, readLeading, blankLeading⟩ := before.exists_readsTo (visible (behind.1 ++ rest))
  have tag := readsTo_word word (behind.not_startsName ends.name)
  have joined : JoinAnywhere (.token ⟨.tag, keyframe.text, keyframe.text⟩ :: trailing) :=
    joinAnywhere_token rfl blankTrailing
  refine ⟨_, ?_, joinAnywhere_append blankLeading joined⟩
  rw [KeyframeEntry.text, List.append_assoc, List.append_assoc]
  exact readLeading.append (tag.append readTrailing)

/-! ### Reading percentages -/

theorem mem_digits {c : Char} (digit : c.isDigit = true) : c ∈ "0123456789".toList := by
  rw [Char.isDigit, Bool.and_eq_true, decide_eq_true_eq, decide_eq_true_eq] at digit
  obtain ⟨low, high⟩ := digit
  have least : 48 ≤ c.toNat := low
  have most : c.toNat < 58 := Nat.lt_succ_of_le high
  have each : ∀ n < 58, 48 ≤ n → Char.ofNat n ∈ "0123456789".toList := by decide
  rw [← Char.ofNat_toNat c]
  exact each c.toNat most least

theorem readPiece_digit {c : Char} (digit : c.isDigit = true) (rest : Text) :
    readPiece c rest = .error (.unexpected c) := by
  have member := mem_digits digit
  simp only [String.reduceToList, List.mem_cons, List.not_mem_nil, or_false] at member
  rcases member with rfl | rfl | rfl | rfl | rfl | rfl | rfl | rfl | rfl | rfl <;> rfl

theorem readPieces_digit {c : Char} (digit : c.isDigit = true) (rest : Text) :
    readPieces (c :: rest) = .error (.unexpected c) := by
  have inside : c ≠ ',' := by
    rintro rfl
    cases digit
  rw [readPieces, if_neg inside]
  split
  · rename_i fault failed
    rw [readPiece_digit digit] at failed
    cases failed
    rfl
  · rename_i found
    rw [readPiece_digit digit] at found
    cases found

theorem Keyframe.isWord_or (keyframe : Keyframe) :
    keyframe.isWord = true ∨ ∃ whole fraction?, keyframe = .percentage whole fraction? := by
  cases keyframe with
  | start | finish => exact .inl rfl
  | percentage whole fraction? => exact .inr ⟨whole, fraction?, rfl⟩

theorem exists_text_percentage (whole : Digits) (fraction? : Option Digits) :
    ∃ rest, (Keyframe.percentage whole fraction?).text = whole.first :: rest := by
  cases fraction? <;> exact ⟨_, rfl⟩

namespace KeyframeEntry

/-- A percentage is refused at its first digit, which is the first digit of the entry. -/
theorem readPieces_percentage {entry : KeyframeEntry} {whole : Digits} {fraction? : Option Digits}
    (percentage : entry.keyframe = .percentage whole fraction?) (more : Text) :
    (entry.text ++ more).find? Char.isDigit = some whole.first ∧
      readPieces (entry.text ++ more) = .error (.unexpected whole.first) := by
  obtain ⟨before, keyframe, behind⟩ := entry
  obtain ⟨rest, written⟩ := exists_text_percentage whole fraction?
  have digit := whole.isDigit whole.first List.mem_cons_self
  have text : KeyframeEntry.text ⟨before, keyframe, behind⟩ ++ more =
      before.1 ++ whole.first :: (rest ++ (behind.1 ++ more)) := by
    cases percentage
    simp only [KeyframeEntry.text, written, List.append_assoc, List.cons_append]
  have visible : ∀ c ∈ (whole.first :: (rest ++ (behind.1 ++ more))).head?, isBlank c = false := by
    intro c first
    cases first
    rw [Bool.eq_false_iff]
    intro blank
    rw [(not_alpha_or_digit_of_isBlank blank).2] at digit
    cases digit
  obtain ⟨pieces, read, -⟩ := before.exists_readsTo visible
  rw [text]
  constructor
  · rw [List.find?_append, before.find?_isDigit, List.find?_cons_of_pos digit]
    rfl
  · exact readPieces_of_readsTo_fault read (readPieces_digit digit _)

theorem find?_word {entry : KeyframeEntry} (word : entry.keyframe.isWord = true) :
    entry.text.find? Char.isDigit = none := by
  obtain ⟨before, keyframe, behind⟩ := entry
  have letters : keyframe.text.find? Char.isDigit = none := by
    cases keyframe with
    | start | finish => decide
    | percentage => cases word
  rw [KeyframeEntry.text, List.find?_append, List.find?_append, before.find?_isDigit, letters,
    behind.find?_isDigit]
  rfl

theorem find?_word_comma {entry : KeyframeEntry} (word : entry.keyframe.isWord = true)
    (more : Text) :
    (entry.text ++ ',' :: more).find? Char.isDigit = more.find? Char.isDigit := by
  rw [List.find?_append, find?_word word, Option.none_or, List.find?_cons_of_neg (by decide)]

end KeyframeEntry

theorem readPieces_keyframes (list : KeyframeList) :
    match list.text.find? Char.isDigit with
    | none => ∃ groups, readPieces list.text = .ok groups ∧ ∀ group ∈ groups, JoinAnywhere group
    | some digit => readPieces list.text = .error (.unexpected digit) := by
  obtain ⟨first, others⟩ := list
  induction others generalizing first with
  | nil =>
      rw [KeyframeList.text_singleton]
      rcases first.keyframe.isWord_or with word | ⟨whole, fraction?, percentage⟩
      · obtain ⟨pieces, read, anywhere⟩ := KeyframeEntry.exists_readsTo word endsSelector_nil
        rw [List.append_nil] at read
        rw [KeyframeEntry.find?_word word]
        refine ⟨[pieces], readPieces_of_readsTo_nil read, ?_⟩
        intro group member
        rwa [List.mem_singleton.mp member]
      · have refused := KeyframeEntry.readPieces_percentage percentage []
        rw [List.append_nil] at refused
        rw [refused.1]
        exact refused.2
  | cons second others ih =>
      rw [KeyframeList.text_cons]
      rcases first.keyframe.isWord_or with word | ⟨whole, fraction?, percentage⟩
      · have later := ih second
        obtain ⟨pieces, read, anywhere⟩ := KeyframeEntry.exists_readsTo word
          (endsSelector_comma (KeyframeList.text ⟨second, others⟩))
        rw [KeyframeEntry.find?_word_comma word]
        generalize KeyframeList.text ⟨second, others⟩ = more at later read ⊢
        cases found : more.find? Char.isDigit with
        | none =>
            rw [found] at later
            obtain ⟨groups, following, each⟩ := later
            exact ⟨pieces :: groups, readPieces_of_readsTo_comma read following,
              List.forall_mem_cons.mpr ⟨anywhere, each⟩⟩
        | some digit =>
            rw [found] at later
            apply readPieces_of_readsTo_fault read
            rw [readPieces, if_pos rfl, later]
            rfl
      · obtain ⟨found, refused⟩ := KeyframeEntry.readPieces_percentage percentage
          (',' :: KeyframeList.text ⟨second, others⟩)
        rw [found]
        exact refused

/-! ### Which characters a list has -/

theorem KeyframeEntry.mem_text_iff {c : Char} (visible : isBlank c = false)
    (entry : KeyframeEntry) : c ∈ entry.text ↔ c ∈ entry.keyframe.text := by
  have absent (padding : Padding) : c ∉ padding.1 := by
    intro member
    have blank := padding.allBlank c member
    rw [visible] at blank
    cases blank
  rw [KeyframeEntry.text, List.mem_append, List.mem_append]
  simp only [absent, false_or, or_false]

theorem Keyframe.mem_percent_iff (keyframe : Keyframe) :
    '%' ∈ keyframe.text ↔ keyframe.isWord = false := by
  cases keyframe with
  | start | finish => decide
  | percentage whole fraction? => cases fraction? <;> simp [Keyframe.text, Keyframe.isWord]

theorem Keyframe.nesting_not_mem (keyframe : Keyframe) : '&' ∉ keyframe.text := by
  have absent (digits : Digits) : '&' ∉ digits.text := by
    intro member
    exact absurd (digits.isDigit '&' member) (by decide)
  cases keyframe with
  | start | finish => decide
  | percentage whole fraction? => cases fraction? <;> simp [Keyframe.text, absent]

theorem KeyframeList.mem_percent_iff (list : KeyframeList) :
    '%' ∈ list.text ↔ ∃ digit, list.text.find? Char.isDigit = some digit := by
  have entry (entry : KeyframeEntry) : '%' ∈ entry.text ↔ entry.keyframe.isWord = false :=
    (entry.mem_text_iff (by decide)).trans entry.keyframe.mem_percent_iff
  obtain ⟨first, others⟩ := list
  induction others generalizing first with
  | nil =>
      rw [KeyframeList.text_singleton, entry]
      rcases first.keyframe.isWord_or with word | ⟨whole, fraction?, percentage⟩
      · simp [word, KeyframeEntry.find?_word word]
      · have refused := KeyframeEntry.readPieces_percentage percentage []
        rw [List.append_nil] at refused
        simp [percentage, Keyframe.isWord, refused.1]
  | cons second others ih =>
      rw [KeyframeList.text_cons, List.mem_append, entry]
      rcases first.keyframe.isWord_or with word | ⟨whole, fraction?, percentage⟩
      · have later : '%' ∈ KeyframeList.text ⟨second, others⟩ ↔ _ := ih second
        rw [KeyframeEntry.find?_word_comma word, List.mem_cons, later]
        simp [word]
      · have refused := KeyframeEntry.readPieces_percentage percentage
          (',' :: KeyframeList.text ⟨second, others⟩)
        simp [percentage, Keyframe.isWord, refused.1]

theorem hasNesting_keyframes (list : KeyframeList) : hasNesting list.text = false := by
  have entry (entry : KeyframeEntry) : '&' ∉ entry.text := by
    rw [entry.mem_text_iff (by decide)]
    exact entry.keyframe.nesting_not_mem
  rw [Bool.eq_false_iff, ne_eq, hasNesting_iff]
  simp [KeyframeList.text, entry]

/-! ### Keyframes below their surroundings -/

theorem standaloneText_plain {placement : Placement}
    (plain : hasNesting placement.1.selector = false) :
    standaloneText placement = placement.1.selector ∨
      standaloneText placement =
        joinDescendant (standaloneText (⟨['&'], placement.1.position⟩, placement.2))
          placement.1.selector := by
  obtain ⟨⟨selector, position⟩, ancestors⟩ := placement
  have mark (parent : Text) : placeBelow ['&'] parent = parent := by
    simp [placeBelow]
  simp only [standaloneText, answers_resolveFirst _ _ .empty,
    resolutions_eq_nearest _ ancestors .empty]
  cases nearestResolutions .empty ancestors with
  | none => exact .inl rfl
  | some resolved =>
      cases resolved with
      | nil => exact .inl rfl
      | cons first others =>
          right
          simp only [List.map_cons, List.head?_cons, Option.getD_some, mark]
          exact placeBelow_of_plain selector plain first

def inKeyframes (placement : Placement) : Bool :=
  placement.2.any fun
    | .atBlock head _ => head.name = "keyframes"
    | _ => false

/-- What the nesting mark stands for in the place of a style rule can be read. -/
def ReadableAround (placement : Placement) : Prop :=
  ∃ selectors, standaloneSelectors (⟨['&'], placement.1.position⟩, placement.2) = .ok selectors

theorem readableAround_of_top {placement : Placement}
    (top : ∀ node ∈ placement.2, node.commaList? = none) : ReadableAround placement := by
  have empty : Lineage.ofAncestors placement.2 = [] := by
    rw [ofAncestors_eq_map_commaList?, List.filterMap_eq_nil_iff.mpr top]
    rfl
  have read : (Selector.parseList ['&']).map List.length = .ok 1 := by decide +kernel
  obtain ⟨selectors, read, -⟩ := exists_of_map_eq_ok read
  refine ⟨selectors, ?_⟩
  rw [standaloneSelectors, standaloneText, answers_resolveFirst _ _ .empty, empty]
  exact read

theorem readPieces_space (list : KeyframeList) :
    match list.text.find? Char.isDigit with
    | none =>
      ∃ groups, readPieces (' ' :: list.text) = .ok groups ∧ ∀ group ∈ groups, JoinAnywhere group
    | some digit => readPieces (' ' :: list.text) = .error (.unexpected digit) := by
  obtain ⟨other, text⟩ := exists_text_eq_space list
  have read := readPieces_keyframes other
  rwa [text, List.find?_cons_of_neg (by decide)] at read

theorem exists_standaloneSelectors {placement : Placement} {list : KeyframeList}
    (listed : placement.1.selector = list.text) (words : '%' ∉ placement.1.selector)
    (around : ReadableAround placement) :
    ∃ selectors, standaloneSelectors placement = .ok selectors := by
  have plain := hasNesting_keyframes list
  have digitless : list.text.find? Char.isDigit = none := by
    rw [listed, KeyframeList.mem_percent_iff] at words
    exact Option.eq_none_iff_forall_ne_some.mpr fun digit found => words ⟨digit, found⟩
  rw [← listed] at plain
  rw [standaloneSelectors]
  rcases standaloneText_plain plain with alone | behind
  · have read := readPieces_keyframes list
    rw [digitless] at read
    obtain ⟨groups, pieces, anywhere⟩ := read
    rw [alone, listed, exists_parseList_iff]
    exact ⟨groups, pieces, fun group member => (anywhere group member).exists_ofPieces⟩
  · -- The space that joins the list to its surroundings counts as a blank of its first entry.
    have read := readPieces_space list
    rw [digitless] at read
    obtain ⟨groups, pieces, anywhere⟩ := read
    rw [behind, listed]
    exact exists_parseList_append around pieces anywhere

theorem standaloneSelectors_percentage {placement : Placement} {list : KeyframeList}
    (listed : placement.1.selector = list.text) (percentage : '%' ∈ placement.1.selector)
    (around : ReadableAround placement) :
    ∃ digit, placement.1.selector.find? Char.isDigit = some digit ∧
      standaloneSelectors placement = .error ⟨.unexpected digit, standaloneText placement⟩ := by
  have plain := hasNesting_keyframes list
  rw [listed, KeyframeList.mem_percent_iff] at percentage
  obtain ⟨digit, found⟩ := percentage
  refine ⟨digit, listed ▸ found, ?_⟩
  rw [← listed] at plain
  rw [standaloneSelectors]
  rcases standaloneText_plain plain with alone | behind
  · have read := readPieces_keyframes list
    rw [found] at read
    rw [alone, listed]
    exact parseList_of_fault read
  · have read := readPieces_space list
    rw [found] at read
    rw [behind, listed]
    exact parseList_append_of_fault around read

/-! ### Stylesheets with keyframes -/

/-- Every style rule inside keyframes has a list of keyframes for its selector, and every other one
can be read where it stands. -/
structure Sheet.KeyframesListed (sheet : Sheet) : Prop where
  inside : ∀ placement ∈ sheet.placements, inKeyframes placement = true →
    ∃ list : KeyframeList, placement.1.selector = list.text
  outside : ∀ placement ∈ sheet.placements, inKeyframes placement = false →
    ∃ selectors, standaloneSelectors placement = .ok selectors

/-- Whether a style rule inside keyframes has a percentage in its list. -/
def listsPercentage (placement : Placement) : Bool :=
  inKeyframes placement && placement.1.selector.contains '%'

/-- The surroundings of style rules inside keyframes can be read where there are any, as far as the
first of these rules that has a percentage in its list. -/
def Sheet.KeyframesReadableAround (sheet : Sheet) : Prop :=
  ∀ before placement after, sheet.placements = before ++ placement :: after →
    (∀ earlier ∈ before, listsPercentage earlier = false) → inKeyframes placement = true →
    (∃ node ∈ placement.2, node.commaList? ≠ none) → ReadableAround placement

section Placed

variable {sheet : Sheet} (listed : sheet.KeyframesListed)
  (around : sheet.KeyframesReadableAround) {before after : List Placement} {placement : Placement}
  (whole : sheet.placements = before ++ placement :: after)
  (earlier : ∀ other ∈ before, listsPercentage other = false)

include around whole earlier in
theorem readableAround (inside : inKeyframes placement = true) : ReadableAround placement := by
  by_cases top : ∀ node ∈ placement.2, node.commaList? = none
  · exact readableAround_of_top top
  · push Not at top
    exact around before placement after whole earlier inside top

include listed around whole earlier

theorem unreadable?_eq_none (words : listsPercentage placement = false) :
    unreadable? placement = none := by
  have member : placement ∈ sheet.placements := by simp [whole]
  rw [unreadable?_eq_none_iff]
  cases inside : inKeyframes placement with
  | false => exact listed.outside placement member inside
  | true =>
      obtain ⟨list, text⟩ := listed.inside placement member inside
      have absent : '%' ∉ placement.1.selector := by
        simpa [listsPercentage, inside] using words
      exact exists_standaloneSelectors text absent (readableAround around whole earlier inside)

theorem exists_unreadable? (percentage : listsPercentage placement = true) :
    ∃ digit, placement.1.selector.find? Char.isDigit = some digit ∧
      unreadable? placement = some ⟨.unexpected digit, standaloneText placement⟩ := by
  have member : placement ∈ sheet.placements := by simp [whole]
  obtain ⟨inside, present⟩ := Bool.and_eq_true_iff.mp percentage
  obtain ⟨list, text⟩ := listed.inside placement member inside
  obtain ⟨digit, first, refused⟩ := standaloneSelectors_percentage text (by simpa using present)
    (readableAround around whole earlier inside)
  exact ⟨digit, first, (unreadable?_eq_some_iff _ _).mpr refused⟩

end Placed

theorem readable_before {sheet : Sheet} (listed : sheet.KeyframesListed)
    (around : sheet.KeyframesReadableAround) {before after : List Placement}
    (whole : sheet.placements = before ++ after)
    (words : ∀ placement ∈ before, listsPercentage placement = false) :
    ∀ placement ∈ before, unreadable? placement = none := by
  intro placement member
  obtain ⟨front, back, rfl⟩ := List.append_of_mem member
  have split : sheet.placements = front ++ placement :: (back ++ after) := by simp [whole]
  have earlier : ∀ other ∈ front, listsPercentage other = false :=
    fun other early => words other (List.mem_append_left _ early)
  exact unreadable?_eq_none listed around split earlier (words placement member)

theorem findSome?_unreadable?_of_words {sheet : Sheet} (listed : sheet.KeyframesListed)
    (around : sheet.KeyframesReadableAround)
    (words : ∀ placement ∈ sheet.placements, listsPercentage placement = false) :
    sheet.placements.findSome? unreadable? = none := by
  rw [List.findSome?_eq_none_iff]
  exact readable_before listed around (List.append_nil _).symm words

theorem findSome?_unreadable?_of_percentage {sheet : Sheet} (listed : sheet.KeyframesListed)
    (around : sheet.KeyframesReadableAround) {before after : List Placement}
    {placement : Placement} (whole : sheet.placements = before ++ placement :: after)
    (earlier : ∀ other ∈ before, listsPercentage other = false)
    (percentage : listsPercentage placement = true) :
    ∃ digit, placement.1.selector.find? Char.isDigit = some digit ∧
      sheet.placements.findSome? unreadable? =
        some ⟨.unexpected digit, standaloneText placement⟩ := by
  obtain ⟨digit, first, refused⟩ := exists_unreadable? listed around whole earlier percentage
  refine ⟨digit, first, ?_⟩
  rw [List.findSome?_eq_some_iff]
  exact ⟨before, placement, after, whole, refused, readable_before listed around whole earlier⟩

/-- Keyframes end a run exactly if some of them are percentages: the first list that has one is
refused at its first digit. Words alone never do, and a linter without rules reads nothing. -/
theorem lint_keyframes {sheet : Sheet} (listed : sheet.KeyframesListed)
    (around : sheet.KeyframesReadableAround) (linter : Linter) (journal : Journal) :
    ((∃ diagnostics, (linter.lint sheet).run.answer journal = .ok diagnostics) ↔
      linter.rules = [] ∨ ∀ placement ∈ sheet.placements, listsPercentage placement = false) ∧
    ∀ before placement after, linter.rules ≠ [] →
      sheet.placements = before ++ placement :: after →
      (∀ earlier ∈ before, listsPercentage earlier = false) →
      listsPercentage placement = true →
      ∃ digit, placement.1.selector.find? Char.isDigit = some digit ∧
        (linter.lint sheet).run.answer journal =
          .error ⟨.unexpected digit, standaloneText placement⟩ := by
  rw [answers_lint linter sheet journal]
  have fails (before placement after) (active : linter.rules ≠ [])
      (whole : sheet.placements = before ++ placement :: after)
      (earlier : ∀ other ∈ before, listsPercentage other = false)
      (percentage : listsPercentage placement = true) :
      ∃ digit, placement.1.selector.find? Char.isDigit = some digit ∧
        reportAll linter.rules sheet.placements =
          .error ⟨.unexpected digit, standaloneText placement⟩ := by
    obtain ⟨digit, first, unread⟩ :=
      findSome?_unreadable?_of_percentage listed around whole earlier percentage
    exact ⟨digit, first, reportAll_of_unreadable active unread⟩
  refine ⟨⟨?_, ?_⟩, fails⟩
  · rintro ⟨diagnostics, linted⟩
    by_cases active : linter.rules = []
    · exact .inl active
    · right
      cases found : sheet.placements.find? listsPercentage with
      | none => simpa using found
      | some placement =>
          obtain ⟨percentage, before, after, whole, earlier⟩ :=
            List.find?_eq_some_iff_append.mp found
          obtain ⟨digit, -, failed⟩ :=
            fails before placement after active whole (by simpa using earlier) percentage
          rw [failed] at linted
          cases linted
  · rintro (idle | words)
    · rw [idle]
      exact ⟨[], rfl⟩
    · have readable := findSome?_unreadable?_of_words listed around words
      exact ⟨_, reportAll_of_readable linter.rules readable⟩

def keyframesSheet (selector : Text) : Sheet :=
  [.atBlock ⟨"keyframes", "fade", .start⟩ [.rule ⟨selector, .start⟩ []]]

def Keyframe.entry (keyframe : Keyframe) : KeyframeEntry := ⟨⟨[], by simp⟩, keyframe, ⟨[], by simp⟩⟩

def fractionList : KeyframeList :=
  ⟨⟨⟨[], by simp⟩, .percentage ⟨'1', ['2'], by simp⟩ (some ⟨'5', [], by simp⟩),
    ⟨[' '], by simp [isBlank]⟩⟩, [Keyframe.finish.entry]⟩

/-- A percentage is refused where nothing else is wrong, and so is a word inside an at-rule for
nesting whose own list is never read. -/
theorem lint_refuses_keyframes :
    (Sheet.KeyframesListed (keyframesSheet "50%") ∧
      ((Linter.mk [.noDescendantCombinator]).lint (keyframesSheet "50%")).run.answer .empty =
        .error ⟨.unexpected '5', "50%"⟩) ∧
    Sheet.KeyframesListed [.atBlock ⟨"nest", "..", .start⟩ (keyframesSheet "from")] ∧
    ((Linter.mk [.noDescendantCombinator]).lint
        [.atBlock ⟨"nest", "..", .start⟩ (keyframesSheet "from")]).run.answer .empty =
      .error ⟨.expectedName '.', ".. from"⟩ := by
  have listed {sheet : Sheet} {placement : Placement} (list : KeyframeList)
      (whole : sheet.placements = [placement]) (inside : inKeyframes placement = true)
      (text : placement.1.selector = list.text) : sheet.KeyframesListed := by
    constructor
    · intro other member _
      rw [whole, List.mem_singleton] at member
      rw [member]
      exact ⟨list, text⟩
    · intro other member outside
      rw [whole, List.mem_singleton] at member
      rw [member, inside] at outside
      cases outside
  refine ⟨⟨?_, by decide +kernel⟩, ?_, by decide +kernel⟩
  · exact listed ⟨(Keyframe.percentage ⟨'5', ['0'], by simp⟩ none).entry, []⟩ rfl rfl rfl
  · exact listed ⟨Keyframe.start.entry, []⟩ rfl rfl rfl

def nestedKeyframes : Sheet :=
  [.rule ⟨".my-tool", .start⟩ (keyframesSheet "from" ++ keyframesSheet fractionList.text)]

/-- The word goes behind the selector of the style rule around it, and so does the list with the
percentage, which ends the run. -/
theorem lint_keyframes_nested :
    nestedKeyframes.KeyframesListed ∧ nestedKeyframes.KeyframesReadableAround ∧
      ((Linter.mk [.noDescendantCombinator]).lint nestedKeyframes).run.answer .empty =
        .error ⟨.unexpected '1', ".my-tool 12.5% ,to"⟩ := by
  have readable : ∃ selectors, Selector.parseList ".my-tool" = .ok selectors := by
    have read : (Selector.parseList ".my-tool").map List.length = .ok 1 := by decide +kernel
    obtain ⟨selectors, read, -⟩ := exists_of_map_eq_ok read
    exact ⟨selectors, read⟩
  have placed : ∀ placement ∈ nestedKeyframes.placements,
      inKeyframes placement = false ∧ standaloneText placement = ".my-tool".toList ∨
        inKeyframes placement = true ∧
          (placement.1.selector = KeyframeList.text ⟨Keyframe.start.entry, []⟩ ∨
            placement.1.selector = fractionList.text) ∧
          standaloneText (⟨['&'], placement.1.position⟩, placement.2) = ".my-tool".toList := by
    decide +kernel
  have listed : nestedKeyframes.KeyframesListed := by
    constructor
    · intro placement member inside
      rcases placed placement member with ⟨outside, -⟩ | ⟨-, word | fraction, -⟩
      · rw [inside] at outside
        cases outside
      · exact ⟨_, word⟩
      · exact ⟨_, fraction⟩
    · intro placement member outside
      rcases placed placement member with ⟨-, text⟩ | ⟨inside, -⟩
      · rw [standaloneSelectors, text]
        exact readable
      · rw [inside] at outside
        cases outside
  have around : nestedKeyframes.KeyframesReadableAround := by
    intro before placement after whole _ inside _
    have member : placement ∈ nestedKeyframes.placements := by simp [whole]
    rcases placed placement member with ⟨outside, -⟩ | ⟨-, -, text⟩
    · rw [inside] at outside
      cases outside
    · rw [ReadableAround, standaloneSelectors, text]
      exact readable
  have refused := (lint_keyframes listed around ⟨[.noDescendantCombinator]⟩ .empty).2
  obtain ⟨digit, first, failed⟩ :=
    refused [_, _] _ [] (by simp) rfl (by decide +kernel) (by decide +kernel)
  cases first
  refine ⟨listed, around, ?_⟩
  rw [failed]
  decide +kernel

end ClassLint
