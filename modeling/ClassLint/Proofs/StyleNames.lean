import ClassLint.Pattern
import ClassLint.Proofs.Matching

/-! The names that fit the built-in styles, said as words and segments. The expression of each style
compiles to a program that finds exactly these names, and no name fits two styles. -/

namespace ClassLint

/-! ### The names of each style -/

def isPlain (c : Char) : Bool := c.isLower || c.isDigit

def Begins (test : Char → Bool) (t : Text) : Prop :=
  ∃ first rest, t = first :: rest ∧ test first = true ∧ ∀ c ∈ rest, isPlain c = true

def IsWord : Text → Prop := Begins Char.isLower

def IsCapitalized : Text → Prop := Begins Char.isUpper

def Style.Describes : Style → Text → Prop
  | .component, name => ∃ words, 2 ≤ words.length ∧ (∀ word ∈ words, IsWord word) ∧
      name = ['-'].intercalate words
  | .element, name => IsWord name
  | .variant, name => ∃ segments, segments ≠ [] ∧
      (∀ segment ∈ segments, segment ≠ [] ∧ ∀ c ∈ segment, isPlain c = true) ∧
      name = segments.flatMap ('-' :: ·)
  | .helper, name => ∃ first rest, name = '_' :: first :: rest ∧ first.isLower = true ∧
      ∀ c ∈ rest, isPlain c = true ∨ c = '-'
  | .pascalCase, name => ∃ segments, segments ≠ [] ∧
      (∀ segment ∈ segments, IsCapitalized segment) ∧ name = segments.flatten
  | .camelCase, name => ∃ word segments, IsWord word ∧ segments ≠ [] ∧
      (∀ segment ∈ segments, IsCapitalized segment) ∧ name = word ++ segments.flatten

theorem isLower_iff {c : Char} : c.isLower = true ↔ 97 ≤ c.toNat ∧ c.toNat ≤ 122 := by
  delta Char.isLower
  simp [UInt32.le_iff_toNat_le, ← Char.toNat_val]

theorem isUpper_iff {c : Char} : c.isUpper = true ↔ 65 ≤ c.toNat ∧ c.toNat ≤ 90 := by
  delta Char.isUpper
  simp [UInt32.le_iff_toNat_le, ← Char.toNat_val]

theorem isPlain_iff {c : Char} : isPlain c = true ↔
    97 ≤ c.toNat ∧ c.toNat ≤ 122 ∨ 48 ≤ c.toNat ∧ c.toNat ≤ 57 := by
  rw [isPlain, Bool.or_eq_true, isLower_iff, Char.isDigit_iff_toNat]
  rfl

theorem intercalate_cons (mark : Char) (first : Text) (others : List Text) :
    [mark].intercalate (first :: others) = first ++ others.flatMap (mark :: ·) := by
  induction others generalizing first with
  | nil => simp [List.intercalate]
  | cons next others ih =>
      rw [List.intercalate_cons_cons, ih]
      simp

/-! ### One style for each name -/

/-- The only style that a name can have, by its first character, then by a hyphen or an uppercase
letter in it. -/
def Style.only (name : Text) : Style :=
  if name.head? = some '_' then .helper
  else if name.head? = some '-' then .variant
  else if name.head?.any Char.isUpper then .pascalCase
  else if '-' ∈ name then .component
  else if name.any Char.isUpper then .camelCase
  else .element

section Only

variable {c : Char} {rest t : Text} {segments : List Text}

theorem isUpper_of_isPlain (plain : isPlain c = true) : c.isUpper = false := by
  have bounds := isPlain_iff.mp plain
  rw [Bool.eq_false_iff, ne_eq, isUpper_iff]
  omega

theorem only_of_isUpper (upper : c.isUpper = true) (rest : Text) :
    Style.only (c :: rest) = .pascalCase := by
  have noUnderscore : c ≠ '_' := by
    rintro rfl
    cases upper
  have noHyphen : c ≠ '-' := by
    rintro rfl
    cases upper
  simp [Style.only, noUnderscore, noHyphen, upper]

theorem only_of_isLower (lower : c.isLower = true) (rest : Text) :
    Style.only (c :: rest) =
      if '-' ∈ rest then .component
      else if rest.any Char.isUpper then .camelCase
      else .element := by
  have small : c.isUpper = false := isUpper_of_isPlain (by simp [isPlain, lower])
  have noUnderscore : c ≠ '_' := by
    rintro rfl
    cases lower
  have noHyphen : c ≠ '-' := by
    rintro rfl
    cases lower
  simp [Style.only, noUnderscore, noHyphen, noHyphen.symm, small]

theorem hyphen_notMem (plain : ∀ c ∈ t, isPlain c = true) : '-' ∉ t := by
  intro inside
  cases plain '-' inside

theorem hyphen_notMem_flatten (each : ∀ segment ∈ segments, IsCapitalized segment) :
    '-' ∉ segments.flatten := by
  intro inside
  obtain ⟨segment, known, inside⟩ := List.mem_flatten.mp inside
  obtain ⟨first, rest, rfl, upper, plain⟩ := each segment known
  rcases List.mem_cons.mp inside with rfl | inside
  · cases upper
  · cases plain '-' inside

theorem only_of_describes {s : Style} {name : Text} (describes : s.Describes name) :
    Style.only name = s := by
  cases s with
  | component =>
      obtain ⟨words, atLeast, each, rfl⟩ := describes
      match words, atLeast, each with
      | first :: next :: words, _, each =>
          obtain ⟨c, rest, rfl, lower, -⟩ := each first List.mem_cons_self
          rw [intercalate_cons, List.cons_append, only_of_isLower lower, if_pos (by simp)]
  | element =>
      obtain ⟨c, rest, rfl, lower, plain⟩ := describes
      have small : ¬rest.any Char.isUpper = true := by
        simp only [List.any_eq_true, not_exists, not_and]
        intro c inside
        simp [isUpper_of_isPlain (plain c inside)]
      rw [only_of_isLower lower, if_neg (hyphen_notMem plain), if_neg small]
  | variant =>
      obtain ⟨segments, nonempty, -, rfl⟩ := describes
      obtain ⟨first, segments, rfl⟩ := List.exists_cons_of_ne_nil nonempty
      rfl
  | helper =>
      obtain ⟨first, rest, rfl, -⟩ := describes
      rfl
  | pascalCase =>
      obtain ⟨segments, nonempty, each, rfl⟩ := describes
      obtain ⟨first, segments, rfl⟩ := List.exists_cons_of_ne_nil nonempty
      obtain ⟨c, rest, rfl, upper, -⟩ := each first List.mem_cons_self
      exact only_of_isUpper upper _
  | camelCase =>
      obtain ⟨_, segments, ⟨c, rest, rfl, lower, plain⟩, nonempty, each, rfl⟩ := describes
      have noHyphen : '-' ∉ rest ++ segments.flatten := by
        rw [List.mem_append, not_or]
        exact ⟨hyphen_notMem plain, hyphen_notMem_flatten each⟩
      -- The capital is what tells the name from that of an element.
      have capital : (rest ++ segments.flatten).any Char.isUpper = true := by
        obtain ⟨first, segments, rfl⟩ := List.exists_cons_of_ne_nil nonempty
        obtain ⟨c, rest, rfl, upper, -⟩ := each first List.mem_cons_self
        simp [upper]
      rw [List.cons_append, only_of_isLower lower, if_neg noHyphen, if_pos capital]

end Only

/-! ### The programs of the styles -/

namespace Regex

open Program Taking

def lowers : CharSet := .range 'a' 'z'

def uppers : CharSet := .range 'A' 'Z'

def plains : CharSet := .ofRanges [('0', '9'), ('a', 'z')]

def hyphenated : CharSet := .ofRanges [('-', '-'), ('0', '9'), ('a', 'z')]

theorem mem_lowers {c : Char} : lowers.mem c = true ↔ c.isLower = true := by
  have ranges : lowers = ⟨[(97, 122)]⟩ := by decide
  simp [ranges, CharSet.mem, Unicode.covers, isLower_iff]

theorem mem_uppers {c : Char} : uppers.mem c = true ↔ c.isUpper = true := by
  have ranges : uppers = ⟨[(65, 90)]⟩ := by decide
  simp [ranges, CharSet.mem, Unicode.covers, isUpper_iff]

theorem mem_plains {c : Char} : plains.mem c = true ↔ isPlain c = true := by
  have ranges : plains = ⟨[(48, 57), (97, 122)]⟩ := by decide
  simp only [ranges, CharSet.mem, Unicode.covers, isPlain_iff, Bool.and_eq_true, Bool.or_eq_true,
    decide_eq_true_eq, Bool.or_false]
  omega

theorem mem_hyphenated {c : Char} : hyphenated.mem c = true ↔ isPlain c = true ∨ c = '-' := by
  have ranges : hyphenated = ⟨[(45, 45), (48, 57), (97, 122)]⟩ := by decide
  have hyphen : c = '-' ↔ c.toNat = 45 := Char.toNat_inj.symm
  simp only [ranges, CharSet.mem, Unicode.covers, isPlain_iff, hyphen, Bool.and_eq_true,
    Bool.or_eq_true, decide_eq_true_eq, Bool.or_false]
  omega

def beginning (first rest : CharSet) : Program :=
  .sequence [.set first, .loop (.set rest) 0 none false]

def word : Program := beginning lowers plains

def capitalized : Program := beginning uppers plains

def run (s : CharSet) : Program := .loop (.set s) 1 none false

def marked (mark : Char) (body : Program) : List Program := [.literal [mark], body]

theorem takes_beginning (first rest : CharSet) : (beginning first rest).Takes = .ofWords fun t =>
    ∃ c others, t = c :: others ∧ first.mem c = true ∧ ∀ other ∈ others, rest.mem other = true := by
  simp only [beginning, Takes, TakesAll, both_nothing, between_member]
  rw [member_eq_ofWords, both_ofWords]
  funext before t after
  apply propext
  constructor
  · rintro ⟨_, others, rfl, ⟨c, start, rfl⟩, -, inside⟩
    exact ⟨c, others, rfl, start, inside⟩
  · rintro ⟨c, others, rfl, start, inside⟩
    exact ⟨[c], others, rfl, ⟨c, start, rfl⟩, Nat.zero_le _, inside⟩

theorem takes_word : word.Takes = .ofWords IsWord := by
  simp only [word, takes_beginning, mem_lowers, mem_plains]
  rfl

theorem takes_capitalized : capitalized.Takes = .ofWords IsCapitalized := by
  simp only [capitalized, takes_beginning, mem_uppers, mem_plains]
  rfl

theorem takes_run : (run plains).Takes = .ofWords fun t => t ≠ [] ∧ ∀ c ∈ t, isPlain c = true := by
  simp only [run, Takes, between_member, mem_plains, Nat.one_le_iff_ne_zero,
    List.length_eq_zero_iff, ne_eq]

theorem takesAll_marked {body : Program} {fits : Text → Prop} (takes : body.Takes = .ofWords fits)
    (mark : Char) :
    TakesAll (marked mark body) = .ofWords fun t => ∃ rest, fits rest ∧ t = mark :: rest := by
  simp only [marked, Takes, TakesAll, both_nothing, takes]
  funext before t after
  apply propext
  constructor
  · rintro ⟨_, rest, rfl, rfl, fit⟩
    exact ⟨rest, fit, rfl⟩
  · rintro ⟨rest, fit, rfl⟩
    exact ⟨[mark], rest, rfl, rfl, fit⟩

mutual

theorem eq_of_same {a b : Program} (alike : a.same b = true) : a = b := by
  cases a <;> cases b <;>
    simp only [same, Bool.and_eq_true, decide_eq_true_eq, Bool.false_eq_true] at alike
  case empty.empty => rfl
  case literal.literal => rw [alike]
  case set.set => rw [alike]
  case look.look => rw [alike]
  case capture.capture => rw [alike.1, eq_of_same alike.2]
  case loop.loop => rw [alike.1.1.1, alike.1.1.2, alike.1.2, eq_of_same alike.2]
  case sequence.sequence => rw [eq_of_sameList alike]
  case choice.choice => rw [eq_of_sameList alike]

theorem eq_of_sameList {as bs : List Program} (alike : sameList as bs = true) : as = bs := by
  cases as <;> cases bs <;>
    simp only [sameList, Bool.and_eq_true, Bool.false_eq_true] at alike
  case nil.nil => rfl
  case cons.cons => rw [eq_of_same alike.1, eq_of_sameList alike.2]

end

end Regex

section Programs

open Regex Regex.Program Regex.Taking

/-- What stands between the two ends in the expression of a style. -/
def Style.parts : Style → List Program
  | .component =>
    [.capture 1 word, .loop (.capture 2 (.sequence (marked '-' (.capture 3 word)))) 1 none false]
  | .element => [.capture 1 word]
  | .variant =>
    [.capture 1 (.sequence (marked '-' (run plains))),
      .loop (.capture 2 (.sequence (marked '-' (run plains)))) 0 none false]
  | .helper => marked '_' (.capture 1 (beginning lowers hyphenated))
  | .pascalCase => [.loop (.capture 1 capitalized) 1 none false]
  | .camelCase => [.capture 1 word, .loop (.capture 2 capitalized) 1 none false]

def Style.program (s : Style) : Program :=
  .sequence (.look .textStart :: (s.parts ++ [.look .textEnd]))

theorem takesAll_component :
    TakesAll Style.component.parts = .ofWords Style.component.Describes := by
  have captured : (capture 3 word).Takes = .ofWords IsWord := takes_word
  simp only [Style.parts, Takes, TakesAll, both_nothing, takes_word, takesAll_marked captured,
    between_ofWords]
  funext before name after
  apply propext
  constructor
  · rintro ⟨first, _, rfl, head, words, atLeast, each, rfl⟩
    exact ⟨first :: words, Nat.succ_le_succ atLeast, List.forall_mem_cons.mpr ⟨head, each⟩,
      (intercalate_cons '-' first words).symm⟩
  · rintro ⟨words, atLeast, each, rfl⟩
    obtain ⟨first, words, rfl⟩ :=
      List.exists_cons_of_length_pos (Nat.lt_of_lt_of_le Nat.two_pos atLeast)
    obtain ⟨head, each⟩ := List.forall_mem_cons.mp each
    exact ⟨first, _, intercalate_cons '-' first words, head, words, Nat.le_of_succ_le_succ atLeast,
      each, rfl⟩

theorem takesAll_variant : TakesAll Style.variant.parts = .ofWords Style.variant.Describes := by
  simp only [Style.parts, Takes, TakesAll, both_nothing, takesAll_marked takes_run, between_ofWords]
  funext before name after
  apply propext
  constructor
  · rintro ⟨_, _, rfl, ⟨first, head, rfl⟩, segments, -, each, rfl⟩
    exact ⟨first :: segments, by simp, List.forall_mem_cons.mpr ⟨head, each⟩, rfl⟩
  · rintro ⟨segments, nonempty, each, rfl⟩
    obtain ⟨first, segments, rfl⟩ := List.exists_cons_of_ne_nil nonempty
    obtain ⟨head, each⟩ := List.forall_mem_cons.mp each
    exact ⟨_, _, rfl, ⟨first, head, rfl⟩, segments, Nat.zero_le _, each, rfl⟩

theorem takesAll_helper : TakesAll Style.helper.parts = .ofWords Style.helper.Describes := by
  have captured : (capture 1 (beginning lowers hyphenated)).Takes = _ := takes_beginning _ _
  rw [Style.parts, takesAll_marked captured]
  simp only [mem_lowers, mem_hyphenated]
  funext before name after
  apply propext
  constructor
  · rintro ⟨_, ⟨first, rest, rfl, head, each⟩, rfl⟩
    exact ⟨first, rest, rfl, head, each⟩
  · rintro ⟨first, rest, rfl, head, each⟩
    exact ⟨_, ⟨first, rest, rfl, head, each⟩, rfl⟩

theorem takesAll_camelCase :
    TakesAll Style.camelCase.parts = .ofWords Style.camelCase.Describes := by
  simp only [Style.parts, Takes, TakesAll, both_nothing, takes_word, takes_capitalized,
    between_words, Nat.one_le_iff_ne_zero, ne_eq, List.length_eq_zero_iff]
  funext before name after
  apply propext
  constructor
  · rintro ⟨first, _, rfl, head, segments, nonempty, each, rfl⟩
    exact ⟨first, segments, head, nonempty, each, rfl⟩
  · rintro ⟨first, segments, head, nonempty, each, rfl⟩
    exact ⟨first, _, rfl, head, segments, nonempty, each, rfl⟩

theorem takesAll_parts (s : Style) : TakesAll s.parts = .ofWords s.Describes := by
  cases s with
  | component => exact takesAll_component
  | element =>
      simp only [Style.parts, Takes, TakesAll, both_nothing, takes_word]
      rfl
  | variant => exact takesAll_variant
  | helper => exact takesAll_helper
  | pascalCase =>
      simp only [Style.parts, Takes, TakesAll, both_nothing, takes_capitalized, between_words,
        Nat.one_le_iff_ne_zero, ne_eq, List.length_eq_zero_iff]
      rfl
  | camelCase => exact takesAll_camelCase

theorem compile_pattern (s : Style) : Regex.compile? s.pattern = some s.program := by
  -- programs are compared by `same`, as there is no decidable equality for the nested type
  have alike : (Regex.compile? s.pattern).any s.program.same = true := by
    cases s <;> decide +kernel
  cases found : Regex.compile? s.pattern with
  | none =>
      rw [found] at alike
      cases alike
  | some program =>
      rw [found] at alike
      rw [eq_of_same alike]

def Style.compiled (s : Style) : ClassPattern := ⟨.style s, s.program⟩

theorem compile_style (s : Style) : ClassPattern.compile (.style s) = .ok s.compiled := by
  simp only [ClassPattern.compile, ClassPattern.source, compile_pattern, Style.compiled]

theorem accepts_compiled (s : Style) (name : Text) :
    s.compiled.accepts name = true ↔ s.Describes name :=
  search_between_ends (takesAll_parts s) name

end Programs

/-- Each style compiles to a pattern that accepts exactly its names, and no two styles accept the
same name. -/
theorem styles_accept_described : ∃ compiled : Style → ClassPattern,
    (∀ s, ClassPattern.compile (.style s) = .ok (compiled s)) ∧
    (∀ s name, (compiled s).accepts name = true ↔ s.Describes name) ∧
    ∀ s other name, (compiled s).accepts name = true ∧ (compiled other).accepts name = true →
      s = other := by
  refine ⟨Style.compiled, compile_style, accepts_compiled, ?_⟩
  rintro s other name ⟨accepted, again⟩
  have first := only_of_describes ((accepts_compiled s name).mp accepted)
  have second := only_of_describes ((accepts_compiled other name).mp again)
  exact first.symm.trans second

/-- Two words with a hyphen are a component and nothing else. -/
theorem styles_accept_described_words : ∃ compiled : Style → ClassPattern,
    (∀ s, ClassPattern.compile (.style s) = .ok (compiled s)) ∧
    ∀ s, (compiled s).accepts "search-form" = true ↔ s = .component := by
  obtain ⟨compiled, compiles, accepts_iff, one⟩ := styles_accept_described
  have search : IsWord "search" := ⟨'s', "earch", rfl, rfl, List.all_eq_true.mp rfl⟩
  have form : IsWord "form" := ⟨'f', "orm", rfl, rfl, List.all_eq_true.mp rfl⟩
  have words : ∀ word ∈ (["search", "form"] : List Text), IsWord word :=
    List.forall_mem_cons.mpr ⟨search, List.forall_mem_singleton.mpr form⟩
  have accepted : (compiled .component).accepts "search-form" = true :=
    (accepts_iff .component _).mpr ⟨["search", "form"], Nat.le_refl 2, words, rfl⟩
  refine ⟨compiled, compiles, fun s => ⟨fun again => one s .component _ ⟨again, accepted⟩, ?_⟩⟩
  rintro rfl
  exact accepted

-- a line break at the end belongs to the name
example : (ClassPattern.compile (.style .component)).map (fun pattern =>
    pattern.accepts "search-form\n") = .ok false := by
  decide +kernel

end ClassLint
