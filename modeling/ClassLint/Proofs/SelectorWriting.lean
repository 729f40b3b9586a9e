import ClassLint.Proofs.Lexing

/-! Writing selectors. A list of selectors built from class and id names is written with every
foreign character of a name escaped; reading the text gives the same selectors back. -/

namespace ClassLint

inductive SimpleSort where
  | className
  | id
  deriving DecidableEq, Repr

namespace SimpleSort

def kind : SimpleSort → Kind
  | .className => .className
  | .id => .id

def mark : SimpleSort → Char
  | .className => '.'
  | .id => '#'

end SimpleSort

/-- A class or an id. Any text but the empty one is a name. -/
structure Simple where
  sort : SimpleSort
  name : Text
  name_ne_nil : name ≠ []

structure Compound where
  first : Simple
  others : List Simple

abbrev Explicit := { combinator : Combinator // combinator ≠ .descendant }

/-- Compounds joined by combinators, with perhaps a combinator before the first one and perhaps one
after the last. -/
structure Complex where
  leading? : Option Explicit
  first : Compound
  others : List (Combinator × Compound)
  trailing? : Option Explicit

def Compound.simples (compound : Compound) : List Simple := compound.first :: compound.others

/-! ### The written form -/

/-- A name with a backslash before every character that could not stand in one. -/
def escapeName (name : Text) : Text :=
  name.flatMap fun c => if isNameCharacter c then [c] else ['\\', c]

def Simple.text (simple : Simple) : Text := simple.sort.mark :: escapeName simple.name

def Compound.text (compound : Compound) : Text := compound.simples.flatMap Simple.text

def Combinator.text : Combinator → Text
  | .descendant => [' ']
  | combinator => [' ', combinator.mark, ' ']

def Explicit.text (combinator? : Option Explicit) : Text :=
  combinator?.elim [] fun combinator => combinator.1.text

def Complex.text (complex : Complex) : Text :=
  Explicit.text complex.leading? ++ complex.first.text ++
    complex.others.flatMap (fun (combinator, compound) => combinator.text ++ compound.text) ++
    Explicit.text complex.trailing?

def Complex.listText (selectors : List Complex) : Text :=
  (", " : Text).intercalate (selectors.map Complex.text)

/-! ### What is to be read back -/

def Simple.meaning (simple : Simple) : Kind × Text := (simple.sort.kind, simple.name)

def Compound.meaning (compound : Compound) : List (Kind × Text) :=
  compound.simples.map Simple.meaning

def Explicit.meaning (combinator? : Option Explicit) : List (Kind × Text) :=
  combinator?.elim [] fun combinator => [combinator.1.meaning]

def Complex.meaning (complex : Complex) : List (Kind × Text) :=
  Explicit.meaning complex.leading? ++ complex.first.meaning ++
    complex.others.flatMap (fun (combinator, compound) =>
      combinator.meaning :: compound.meaning) ++
    Explicit.meaning complex.trailing?

/-! ### Names -/

theorem takeName_escapeName (name : Text) {rest : Text} (stops : ¬StartsName rest) :
    takeName (escapeName name ++ rest) = .ok ⟨name, escapeName name, rest⟩ := by
  induction name with
  | nil => exact takeName_of_stop stops
  | cons c name ih =>
      by_cases character : isNameCharacter c = true
      · have written : escapeName (c :: name) = c :: escapeName name := by
          simp [escapeName, character]
        rw [written, List.cons_append, takeName_of_character character, ih]
        rfl
      · have written : escapeName (c :: name) = '\\' :: c :: escapeName name := by
          simp [escapeName, character]
        rw [written, List.cons_append, List.cons_append, takeName_escape, ih]
        rfl

theorem head?_escapeName_ne {name : Text} (named : name ≠ []) (rest : Text) :
    (escapeName name ++ rest).head? ≠ some '{' := by
  obtain ⟨c, name, rfl⟩ := List.exists_cons_of_ne_nil named
  by_cases character : isNameCharacter c = true
  · have other : c ≠ '{' := by
      rintro rfl
      exact absurd character (by decide)
    simp [escapeName, character, other]
  · simp [escapeName, character]

theorem not_startsName_simple (simple : Simple) (rest : Text) :
    ¬StartsName (simple.text ++ rest) := by
  have unopened := head?_escapeName_ne simple.name_ne_nil rest
  rw [Simple.text, List.cons_append, startsName_cons_iff]
  cases simple.sort with
  | className => simp [SimpleSort.mark, isNameCharacter, isNameStart]
  | id =>
      rintro (⟨_, opened⟩ | character | escape)
      · exact unopened opened
      · exact absurd character (by decide)
      · exact absurd escape (by decide)

/-! ### Pieces -/

def Simple.token (simple : Simple) : Token := ⟨simple.sort.kind, simple.name, simple.text⟩

def Compound.tokens (compound : Compound) : List Token := compound.simples.map Simple.token

def Compound.pieces (compound : Compound) : List Piece := compound.tokens.map .token

def Combinator.pieces (padding : Text) : Combinator → List Piece
  | .descendant => [.space (padding ++ [' '])]
  | combinator => [.space (padding ++ [' ']), .combinator combinator, .space [' ']]

def Explicit.leadingPieces (padding : Text) : Option Explicit → List Piece
  | some combinator => combinator.1.pieces padding
  | none => if padding = [] then [] else [.space padding]

def followingPieces (trailing? : Option Explicit) : List (Combinator × Compound) → List Piece
  | [] => trailing?.elim [] fun combinator => combinator.1.pieces []
  | (combinator, compound) :: others =>
    combinator.pieces [] ++ (compound.pieces ++ followingPieces trailing? others)

def Complex.pieces (padding : Text) (complex : Complex) : List Piece :=
  Explicit.leadingPieces padding complex.leading? ++
    (complex.first.pieces ++ followingPieces complex.trailing? complex.others)

theorem readPiece_simple (simple : Simple) {rest : Text} (stops : ¬StartsName rest) :
    readPiece simple.sort.mark (escapeName simple.name ++ rest) =
      .ok (.token simple.token, rest) := by
  obtain ⟨sort, name, named⟩ := simple
  have read := takeName_escapeName name stops
  have marked (kind : Kind) (mark : Char) : readMarked kind mark (escapeName name ++ rest) =
      .ok (.token ⟨kind, name, mark :: escapeName name⟩, rest) := by
    simp [readMarked, read, named]
  cases sort with
  | className => exact marked .className '.'
  | id =>
      have unopened := head?_escapeName_ne named rest
      have token : readPiece '#' (escapeName name ++ rest) =
          readToken '#' (escapeName name ++ rest) := rfl
      rw [SimpleSort.mark, token, readToken]
      · exact marked .id '#'
      · intro body opened
        exact unopened (by rw [opened]; rfl)

theorem reads_simple (simple : Simple) {rest : Text} (stops : ¬StartsName rest) :
    ReadsTo (simple.text ++ rest) [.token simple.token] rest := by
  have inside : simple.sort.mark ≠ ',' := by cases simple.sort <;> decide
  exact .piece inside (readPiece_simple simple stops) (.done rest)

theorem reads_compound (compound : Compound) {rest : Text} (stops : ¬StartsName rest) :
    ReadsTo (compound.text ++ rest) compound.pieces rest := by
  obtain ⟨first, others⟩ := compound
  simp only [Compound.text, Compound.pieces, Compound.tokens, Compound.simples]
  induction others generalizing first with
  | nil => simpa using reads_simple first stops
  | cons next others ih =>
      have follows : ¬StartsName ((next :: others).flatMap Simple.text ++ rest) := by
        rw [List.flatMap_cons, List.append_assoc]
        exact not_startsName_simple next _
      rw [List.flatMap_cons, List.append_assoc]
      exact (reads_simple first follows).append (ih next)

theorem not_blank_compound (compound : Compound) (rest : Text) :
    ∀ c ∈ (compound.text ++ rest).head?, isBlank c = false := by
  intro c first
  have mark : c = compound.first.sort.mark := by
    simpa [Compound.text, Compound.simples, Simple.text, eq_comm] using first
  rw [mark]
  cases compound.first.sort <;> decide


theorem not_startsName_combinator (combinator : Combinator) (rest : Text) :
    ¬StartsName (combinator.text ++ rest) := by
  cases combinator <;> simp [Combinator.text, StartsName, isNameCharacter, isNameStart]

theorem reads_combinator_text (combinator : Combinator) {padding rest : Text}
    (blank : AllBlank padding) (ends : ∀ c ∈ rest.head?, isBlank c = false) :
    ReadsTo (padding ++ (combinator.text ++ rest)) (combinator.pieces padding) rest := by
  have space : AllBlank [' '] := by simp [AllBlank, isBlank]
  have before : AllBlank (padding ++ [' ']) := allBlank_append.mpr ⟨blank, space⟩
  have explicit (marked : combinator ≠ .descendant) :
      ReadsTo (padding ++ ([' ', combinator.mark, ' '] ++ rest))
        [.space (padding ++ [' ']), .combinator combinator, .space [' ']] rest := by
    have mark : ∀ c ∈ (combinator.mark :: ' ' :: rest).head?, isBlank c = false := by
      cases combinator <;> simp_all [Combinator.mark, isBlank]
    have first := reads_blanks (by simp) before mark
    have second := (reads_combinator marked (' ' :: rest)).append
      (reads_blanks (by simp) space ends)
    simpa using first.append second
  cases combinator with
  | descendant =>
      simpa [Combinator.text, Combinator.pieces] using reads_blanks (by simp) before ends
  | child => exact explicit (by simp)
  | nextSibling => exact explicit (by simp)
  | subsequentSibling => exact explicit (by simp)

structure EndsSelector (rest : Text) : Prop where
  name : ¬StartsName rest
  blank : ∀ c ∈ rest.head?, isBlank c = false

theorem endsSelector_nil : EndsSelector [] := ⟨by simp [StartsName], by simp⟩

theorem endsSelector_comma (rest : Text) : EndsSelector (',' :: rest) :=
  ⟨by simp [startsName_cons_iff, isNameCharacter, isNameStart], by simp [isBlank]⟩

theorem reads_leading (leading? : Option Explicit) {padding rest : Text}
    (blank : AllBlank padding) (ends : ∀ c ∈ rest.head?, isBlank c = false) :
    ReadsTo (padding ++ (Explicit.text leading? ++ rest)) (Explicit.leadingPieces padding leading?)
      rest := by
  cases leading? with
  | some combinator => exact reads_combinator_text combinator.1 blank ends
  | none =>
      simp only [Explicit.text, Explicit.leadingPieces, Option.elim_none, List.nil_append]
      split
      · rename_i empty
        rw [empty]
        exact .done rest
      · rename_i nonempty
        exact reads_blanks nonempty blank ends

/-- What follows the first compound; it never goes on with the name before it. -/
theorem reads_following (trailing? : Option Explicit) (others : List (Combinator × Compound))
    {rest : Text} (ends : EndsSelector rest) :
    let text := others.flatMap (fun (combinator, compound) => combinator.text ++ compound.text) ++
      (Explicit.text trailing? ++ rest)
    ¬StartsName text ∧ ReadsTo text (followingPieces trailing? others) rest := by
  induction others with
  | nil =>
      cases trailing? with
      | none => exact ⟨ends.name, .done rest⟩
      | some combinator =>
          exact ⟨not_startsName_combinator combinator.1 rest,
            reads_combinator_text combinator.1 allBlank_nil ends.blank⟩
  | cons next others ih =>
      obtain ⟨combinator, compound⟩ := next
      obtain ⟨stops, following⟩ := ih
      simp only [List.flatMap_cons, List.append_assoc] at stops following ⊢
      have rest := (reads_compound compound stops).append following
      exact ⟨not_startsName_combinator combinator _,
        (reads_combinator_text combinator allBlank_nil (not_blank_compound compound _)).append
          rest⟩

theorem reads_complex (complex : Complex) {padding rest : Text} (blank : AllBlank padding)
    (ends : EndsSelector rest) :
    ReadsTo (padding ++ (complex.text ++ rest)) (complex.pieces padding) rest := by
  obtain ⟨stops, following⟩ := reads_following complex.trailing? complex.others ends
  have first := (reads_compound complex.first stops).append following
  have read := (reads_leading complex.leading? blank
    (not_blank_compound complex.first _)).append first
  simpa [Complex.text, Complex.pieces] using read

theorem listText_cons_cons (first second : Complex) (others : List Complex) :
    Complex.listText (first :: second :: others) =
      first.text ++ ',' :: ' ' :: Complex.listText (second :: others) := by
  simp [Complex.listText, List.intercalate]

theorem readPieces_listText (first : Complex) (others : List Complex) {padding : Text}
    (blank : AllBlank padding) :
    readPieces (padding ++ Complex.listText (first :: others)) =
      .ok (first.pieces padding :: others.map (Complex.pieces [' '])) := by
  induction others generalizing first padding with
  | nil =>
      have read := reads_complex first blank endsSelector_nil
      simpa [Complex.listText, List.intercalate] using readPieces_of_readsTo_nil read
  | cons second others ih =>
      have space : AllBlank [' '] := by simp [AllBlank, isBlank]
      have read := reads_complex first blank
        (endsSelector_comma (' ' :: Complex.listText (second :: others)))
      rw [listText_cons_cons]
      exact readPieces_of_readsTo_comma read (ih second space)

/-! ### Joining -/

def Combinator.gap (padding : Text) : Combinator → Gap
  | .descendant => ⟨none, padding ++ [' ']⟩
  | combinator => ⟨some combinator, padding ++ combinator.text⟩

def Combinator.token (padding : Text) (combinator : Combinator) : Token :=
  .ofCombinator combinator (padding ++ combinator.text)

def Explicit.tokens (padding : Text) (combinator? : Option Explicit) : List Token :=
  combinator?.elim [] fun combinator => [combinator.1.token padding]

def followingTokens (trailing? : Option Explicit) : List (Combinator × Compound) → List Token
  | [] => Explicit.tokens [] trailing?
  | (combinator, compound) :: others =>
    combinator.token [] :: (compound.tokens ++ followingTokens trailing? others)

def Complex.tokens (padding : Text) (complex : Complex) : List Token :=
  Explicit.tokens padding complex.leading? ++
    (complex.first.tokens ++ followingTokens complex.trailing? complex.others)

theorem joinPieces_simple (simple : Simple) {after : Bool} {gap : Option Gap} {pieces : List Piece}
    {tokens : List Token} (rest : joinPieces true none pieces = .ok tokens) :
    joinPieces after gap (.token simple.token :: pieces) =
      .ok (Gap.tokens after gap ++ simple.token :: tokens) := by
  have named : simple.token.isComment = false := by
    obtain ⟨sort, name, _⟩ := simple
    cases sort <;> rfl
  rw [joinPieces, named, rest]
  rfl

theorem joinPieces_compound (compound : Compound) {after : Bool} {gap : Option Gap}
    {pieces : List Piece} {tokens : List Token} (rest : joinPieces true none pieces = .ok tokens) :
    joinPieces after gap (compound.pieces ++ pieces) =
      .ok (Gap.tokens after gap ++ (compound.tokens ++ tokens)) := by
  obtain ⟨first, others⟩ := compound
  apply joinPieces_simple first
  induction others with
  | nil => exact rest
  | cons next others ih => exact joinPieces_simple next ih

theorem joinPieces_combinator (combinator : Combinator) (padding : Text) (after : Bool)
    (pieces : List Piece) :
    joinPieces after none (combinator.pieces padding ++ pieces) =
      joinPieces after (some (combinator.gap padding)) pieces := by
  cases combinator <;>
    simp [Combinator.pieces, Combinator.gap, Combinator.text, joinPieces, Gap.addBlanks,
      Gap.addCombinator]

theorem joinPieces_following (trailing? : Option Explicit)
    (others : List (Combinator × Compound)) :
    joinPieces true none (followingPieces trailing? others) =
      .ok (followingTokens trailing? others) := by
  induction others with
  | nil =>
      cases trailing? with
      | none => rfl
      | some combinator =>
          obtain ⟨combinator, explicit⟩ := combinator
          have joined := joinPieces_combinator combinator [] true []
          rw [List.append_nil] at joined
          rw [followingPieces, Option.elim_some, joined]
          cases combinator with
          | descendant => exact absurd rfl explicit
          | child | nextSibling | subsequentSibling => rfl
  | cons next others ih =>
      obtain ⟨combinator, compound⟩ := next
      rw [followingPieces, joinPieces_combinator, joinPieces_compound compound ih]
      cases combinator <;> rfl

theorem joinPieces_leading (leading? : Option Explicit) (padding : Text) (compound : Compound)
    {pieces : List Piece} {tokens : List Token} (rest : joinPieces true none pieces = .ok tokens) :
    joinPieces false none (Explicit.leadingPieces padding leading? ++ (compound.pieces ++ pieces)) =
      .ok (Explicit.tokens padding leading? ++ (compound.tokens ++ tokens)) := by
  cases leading? with
  | some combinator =>
      obtain ⟨combinator, explicit⟩ := combinator
      rw [Explicit.leadingPieces, joinPieces_combinator, joinPieces_compound compound rest]
      cases combinator with
      | descendant => exact absurd rfl explicit
      | child | nextSibling | subsequentSibling => rfl
  | none =>
      rw [Explicit.leadingPieces]
      split
      · exact joinPieces_compound compound rest
      · -- Blanks before the first token stand for nothing.
        exact joinPieces_compound compound rest

theorem ofPieces_complex (complex : Complex) (padding : Text) :
    Selector.ofPieces (complex.pieces padding) = .ok ⟨complex.tokens padding⟩ := by
  have joined := joinPieces_leading complex.leading? padding complex.first
    (joinPieces_following complex.trailing? complex.others)
  refine ofPieces_eq_ok_iff.mpr ⟨joined, ?_⟩
  simp [Complex.tokens, Compound.tokens, Compound.simples]

theorem meaning_tokens (complex : Complex) (padding : Text) :
    (complex.tokens padding).map Token.meaning = complex.meaning := by
  have combinator? (padding : Text) (combinator? : Option Explicit) :
      (Explicit.tokens padding combinator?).map Token.meaning = Explicit.meaning combinator? := by
    cases combinator? <;> rfl
  have compound (compound : Compound) :
      compound.tokens.map Token.meaning = compound.meaning := by
    simp [Compound.tokens, Compound.meaning, Simple.token, Simple.meaning, Token.meaning]
  have following (others : List (Combinator × Compound)) :
      (followingTokens complex.trailing? others).map Token.meaning =
        others.flatMap (fun (combinator, compound) => combinator.meaning :: compound.meaning) ++
          Explicit.meaning complex.trailing? := by
    induction others with
    | nil => exact combinator? [] complex.trailing?
    | cons next others ih => simp [followingTokens, compound, ih]; rfl
  simp [Complex.tokens, Complex.meaning, combinator?, compound, following]

/-- Reading inverts writing: every selector of a written list comes back with its kinds, names and
combinators in order, whatever characters the names are made of. -/
theorem parseList_listText (first : Complex) (others : List Complex) :
    (Selector.parseList (Complex.listText (first :: others))).map (List.map Selector.meaning) =
      .ok ((first :: others).map Complex.meaning) := by
  have pieces := readPieces_listText first others allBlank_nil
  have joined : List.Forall₂ (fun group selector => Selector.ofPieces group = .ok selector)
      (first.pieces [] :: others.map (Complex.pieces [' ']))
      (⟨first.tokens []⟩ :: others.map fun complex => ⟨complex.tokens [' ']⟩) := by
    refine .cons (ofPieces_complex first []) ?_
    rw [List.forall₂_map_left_iff, List.forall₂_map_right_iff, List.forall₂_same]
    intro complex _
    exact ofPieces_complex complex [' ']
  have parsed := parseList_eq_ok_iff.mpr ⟨_, pieces, joined⟩
  rw [List.nil_append] at parsed
  rw [parsed]
  simp [Except.map, Selector.meaning, Function.comp_def, meaning_tokens]

end ClassLint
