import ClassLint.Regex.Match
import Mathlib.Data.Nat.Bitwise
import Mathlib.Tactic.SplitIfs

/-! Sets of places in a text, and how rounds of a loop lead from one to the next. A round leads
forward and never out of the text, so as many rounds as the text has places stand for any greater
number. -/

namespace ClassLint.Regex.Places

def Has (places : Places) (place : Nat) : Prop := places.testBit place = true

def Within (length : Nat) (places : Places) : Prop := ∀ place, places.Has place → place ≤ length

section Bits

variable {a b : Places} {place : Nat}

theorem not_has_zero (place : Nat) : ¬Has 0 place := by simp [Has]

theorem has_and : Has (a &&& b) place ↔ a.Has place ∧ b.Has place := by simp [Has]

theorem has_or : Has (a ||| b) place ↔ a.Has place ∨ b.Has place := by simp [Has]

theorem has_without : Has (without a b) place ↔ a.Has place ∧ ¬b.Has place := by
  simp only [Has, without, Nat.testBit_xor, Nat.testBit_and]
  cases a.testBit place <;> cases b.testBit place <;> simp

theorem has_shift : Has (a <<< 1) place ↔ ∃ earlier, earlier + 1 = place ∧ a.Has earlier := by
  cases place with
  | zero => simp [Has]
  | succ earlier => simp [Has]

theorem exists_has_iff : (∃ place, a.Has place) ↔ a ≠ 0 := by
  constructor
  · rintro ⟨place, has⟩ rfl
    exact not_has_zero place has
  · exact Nat.exists_testBit_of_ne_zero

theorem has_all (t : Text) : (all t).Has place ↔ place ≤ t.length := by
  rw [Has, all, Nat.one_shiftLeft, Nat.testBit_two_pow_sub_one, decide_eq_true_iff, Nat.lt_succ_iff]

theorem has_first (holds : Bool) (later : Places) :
    Has (holds.toNat + 2 * later) 0 ↔ holds = true := by
  rw [Has, Nat.add_comm, ← Nat.bit_val, Nat.testBit_bit_zero]

theorem has_later (holds : Bool) (later : Places) (place : Nat) :
    Has (holds.toNat + 2 * later) (place + 1) ↔ later.Has place := by
  rw [Has, Nat.add_comm, ← Nat.bit_val, Nat.testBit_bit_succ, Has]

theorem has_ofTest (test : Option Char → Option Char → Bool) (behind : Option Char) (t : Text) :
    (ofTest test behind t).Has place ↔ ∃ front rest, t = front ++ rest ∧ front.length = place ∧
      test (front.getLast?.or behind) rest.head? = true := by
  induction t generalizing behind place with
  | nil =>
      cases place with
      | zero =>
          rw [ofTest, ← Nat.add_zero (Bool.toNat _), has_first _ 0]
          simp
      | succ place =>
          rw [ofTest, ← Nat.add_zero (Bool.toNat _), has_later _ 0]
          simp [not_has_zero]
  | cons c t ih =>
      cases place with
      | zero =>
          rw [ofTest, has_first]
          simp
      | succ place =>
          have last (front : Text) :
              (c :: front).getLast?.or behind = front.getLast?.or (some c) := by
            rw [List.getLast?_cons]
            cases front.getLast? <;> rfl
          rw [ofTest, has_later, ih]
          constructor
          · rintro ⟨front, rest, rfl, same, holds⟩
            exact ⟨c :: front, rest, rfl, congrArg Nat.succ same, last front ▸ holds⟩
          · rintro ⟨front, rest, whole, same, holds⟩
            cases front with
            | nil => cases same
            | cons first front =>
                cases whole
                exact ⟨front, rest, rfl, Nat.succ.inj same, last front ▸ holds⟩

theorem has_before (test : Char → Bool) (t : Text) :
    (before test t).Has place ↔
      ∃ front c rest, t = front ++ c :: rest ∧ front.length = place ∧ test c = true := by
  rw [before, has_ofTest]
  constructor
  · rintro ⟨front, rest, whole, same, holds⟩
    cases rest with
    | nil => cases holds
    | cons c rest => exact ⟨front, c, rest, whole, same, holds⟩
  · rintro ⟨front, c, rest, whole, same, holds⟩
    exact ⟨front, c :: rest, whole, same, holds⟩

theorem Within.or {length : Nat} (first : a.Within length) (second : b.Within length) :
    (a ||| b).Within length := by
  intro place has
  exact (has_or.mp has).elim (first place) (second place)

end Bits

/-! ### Rounds -/

/-- The places that a number of rounds leads to. -/
inductive Rounds (leads : Nat → Nat → Prop) : Nat → Nat → Nat → Prop where
  | none (place : Nat) : Rounds leads 0 place place
  | more {count place next last : Nat} (first : leads place next)
      (rest : Rounds leads count next last) : Rounds leads (count + 1) place last

namespace Rounds

variable {leads : Nat → Nat → Prop} {count more place next last : Nat}

theorem append (first : Rounds leads count place next) (second : Rounds leads more next last) :
    Rounds leads (count + more) place last := by
  induction first with
  | none => rwa [Nat.zero_add]
  | more step _ ih => exact Nat.succ_add .. ▸ .more step (ih second)

theorem exists_of_add (rounds : Rounds leads (count + more) place last) :
    ∃ next, Rounds leads count place next ∧ Rounds leads more next last := by
  induction count generalizing place with
  | zero => exact ⟨place, .none place, by rwa [Nat.zero_add] at rounds⟩
  | succ count ih =>
      rw [Nat.succ_add] at rounds
      cases rounds with
      | more step rest =>
          obtain ⟨next, first, second⟩ := ih rest
          exact ⟨next, .more step first, second⟩

theorem keep {holds : Nat → Prop} (rounds : Rounds leads count place last)
    (step : ∀ {place next : Nat}, holds place → leads place next → holds next)
    (start : holds place) : holds last := by
  induction rounds with
  | none => exact start
  | more first _ ih => exact ih (step start first)

variable (forward : ∀ {place next : Nat}, leads place next → place ≤ next)
include forward

theorem le (rounds : Rounds leads count place last) : place ≤ last := by
  induction rounds with
  | none => exact Nat.le_refl _
  | more step _ ih => exact Nat.le_trans (forward step) ih

/-- Rounds that stay where they are can be left out. -/
theorem shorten (rounds : Rounds leads count place last) (enough : last ≤ place + more)
    (fewer : more ≤ count) : Rounds leads more place last := by
  induction rounds generalizing more with
  | none => exact Nat.le_zero.mp fewer ▸ .none _
  | @more count place next last step rest ih =>
      rcases Nat.eq_or_lt_of_le (forward step) with rfl | advances
      · rcases Nat.eq_or_lt_of_le fewer with rfl | fewer
        · exact .more step rest
        · exact ih enough (Nat.le_of_lt_succ fewer)
      · have onward := le forward rest
        obtain ⟨more, rfl⟩ := Nat.exists_eq_succ_of_ne_zero (n := more) (by omega)
        exact .more step (ih (by omega) (Nat.le_of_succ_le_succ fewer))

/-- Of more rounds than places are passed one stays where it is, and can be repeated. -/
theorem repeatOnce (rounds : Rounds leads count place last) (spare : last < place + count) :
    Rounds leads (count + 1) place last := by
  induction rounds with
  | none => omega
  | @more count place next last step rest ih =>
      rcases Nat.eq_or_lt_of_le (forward step) with rfl | advances
      · exact .more step (.more step rest)
      · exact .more step (ih (by omega))

theorem lengthen (rounds : Rounds leads count place last) (spare : last < place + count)
    (further : count ≤ more) : Rounds leads more place last := by
  induction further with
  | refl => exact rounds
  | @step more further ih =>
      have : count ≤ more := further
      exact repeatOnce forward ih (by omega)

end Rounds

theorem rounds_succ (round : Places → Places) (count : Nat) (places : Places) :
    rounds round (count + 1) places = rounds round count (round places) := by
  rw [rounds]
  split_ifs with fixed
  · rw [fixed]
    cases count with
    | zero => rfl
    | succ count => rw [rounds, if_pos fixed]
  · rfl

/-- How many rounds of a loop may follow the least, where no more than enough are needed. -/
def roundsLeft (enough least : Nat) : Option Nat → Nat
  | none => enough
  | some most => min (most - least) enough

/-- A round over a text of that length: it goes from each place to those that a relation leads to,
which are not before it and not after the end. -/
structure Walk (length : Nat) (leads : Nat → Nat → Prop) (round : Places → Places) : Prop where
  has_iff : ∀ {places : Places}, places.Within length → ∀ place,
    (round places).Has place ↔ ∃ earlier, places.Has earlier ∧ leads earlier place
  forward : ∀ {place next : Nat}, leads place next → place ≤ next
  inside : ∀ {place next : Nat}, leads place next → next ≤ length

/-- What has been seen, and the newest places of it, the only ones from which a round may still lead
to something else. -/
structure Frontier (length : Nat) (leads : Nat → Nat → Prop) (seen newest : Places) : Prop where
  within : seen.Within length
  known : ∀ place, newest.Has place → seen.Has place
  closed : ∀ place next, seen.Has place → ¬newest.Has place → leads place next → seen.Has next

theorem Frontier.newestWithin {length : Nat} {leads : Nat → Nat → Prop} {seen newest : Places}
    (frontier : Frontier length leads seen newest) : newest.Within length :=
  fun place has => frontier.within place (frontier.known place has)

namespace Walk

variable {length : Nat} {leads : Nat → Nat → Prop} {round : Places → Places}
  (walk : Walk length leads round)
include walk

theorem within_round {places : Places} (within : places.Within length) :
    (round places).Within length := by
  intro place has
  obtain ⟨earlier, _, led⟩ := (walk.has_iff within place).mp has
  exact walk.inside led

theorem has_rounds (count : Nat) {places : Places} (within : places.Within length) (place : Nat) :
    (rounds round count places).Has place ↔
      ∃ earlier, places.Has earlier ∧ Rounds leads count earlier place := by
  induction count generalizing places with
  | zero =>
      constructor
      · intro has
        exact ⟨place, has, .none place⟩
      · rintro ⟨earlier, has, ⟨⟩⟩
        exact has
  | succ count ih =>
      rw [rounds_succ, ih (walk.within_round within)]
      constructor
      · rintro ⟨next, has, rest⟩
        obtain ⟨earlier, has, first⟩ := (walk.has_iff within next).mp has
        exact ⟨earlier, has, .more first rest⟩
      · rintro ⟨earlier, has, rounds⟩
        cases rounds with
        | more first rest => exact ⟨_, (walk.has_iff within _).mpr ⟨earlier, has, first⟩, rest⟩

theorem onward {seen newest : Places} (frontier : Frontier length leads seen newest)
    {earlier next : Nat} (has : seen.Has earlier) (led : leads earlier next) :
    seen.Has next ∨ Has (without (round newest) seen) next := by
  by_cases new : newest.Has earlier
  · by_cases old : seen.Has next
    · exact .inl old
    · have reached := (walk.has_iff frontier.newestWithin next).mpr ⟨earlier, new, led⟩
      exact .inr (has_without.mpr ⟨reached, old⟩)
  · exact .inl (frontier.closed earlier next has new led)

/-- One more round adds what the newest places lead to, and leaves only that to be tried. -/
theorem next_frontier {seen newest : Places} (frontier : Frontier length leads seen newest) :
    Frontier length leads (seen ||| without (round newest) seen) (without (round newest) seen) where
  within := frontier.within.or fun next has =>
    walk.within_round frontier.newestWithin next (has_without.mp has).1
  known _ has := has_or.mpr (.inr has)
  closed _ _ has old led :=
    has_or.mpr (walk.onward frontier ((has_or.mp has).resolve_right old) led)

theorem has_spread (count : Nat) {seen newest : Places}
    (frontier : Frontier length leads seen newest) (place : Nat) :
    (spread round count seen newest).Has place ↔
      ∃ earlier, seen.Has earlier ∧ ∃ passed ≤ count, Rounds leads passed earlier place := by
  induction count generalizing seen newest with
  | zero =>
      constructor
      · intro has
        exact ⟨place, has, 0, Nat.le_refl 0, .none place⟩
      · rintro ⟨earlier, has, passed, few, rounds⟩
        obtain rfl := Nat.le_zero.mp few
        cases rounds
        exact has
  | succ count ih =>
      rw [spread]
      split_ifs with none
      · -- nothing is fresh, so what has been seen is closed
        constructor
        · intro has
          exact ⟨place, has, 0, Nat.zero_le _, .none place⟩
        · rintro ⟨earlier, has, passed, -, rounds⟩
          apply rounds.keep _ has
          intro earlier next has led
          exact (walk.onward frontier has led).resolve_right (none ▸ not_has_zero next)
      · rw [ih (walk.next_frontier frontier)]
        constructor
        · rintro ⟨earlier, has, passed, few, rounds⟩
          rcases has_or.mp has with old | fresh
          · exact ⟨earlier, old, passed, Nat.le_succ_of_le few, rounds⟩
          · obtain ⟨led, -⟩ := has_without.mp fresh
            obtain ⟨first, new, led⟩ := (walk.has_iff frontier.newestWithin earlier).mp led
            exact ⟨first, frontier.known first new, passed + 1, Nat.succ_le_succ few,
              .more led rounds⟩
        · rintro ⟨earlier, has, passed, few, rounds⟩
          cases rounds with
          | none => exact ⟨place, has_or.mpr (.inl has), 0, Nat.zero_le _, .none place⟩
          | @more passed _ next _ step rest =>
              exact ⟨next, has_or.mpr (walk.onward frontier has step), passed,
                Nat.le_of_succ_le_succ few, rest⟩

theorem rounds_min_iff {enough : Nat} (long : length < enough) (count : Nat) {place last : Nat}
    (start : place ≤ length) :
    Rounds leads (min count enough) place last ↔ Rounds leads count place last := by
  have inside {count : Nat} (rounds : Rounds leads count place last) : last ≤ length :=
    rounds.keep (fun _ led => walk.inside led) start
  rcases Nat.le_total count enough with few | many
  · rw [Nat.min_eq_left few]
  · rw [Nat.min_eq_right many]
    constructor
    · intro rounds
      have := inside rounds
      exact rounds.lengthen walk.forward (by omega) many
    · intro rounds
      have := inside rounds
      exact rounds.shorten walk.forward (by omega) many

/-- Bounded by more rounds than the text has characters, a loop leads where it leads unbounded. -/
theorem has_loop {enough : Nat} (long : length < enough) (least : Nat) (most? : Option Nat)
    {places : Places} (within : places.Within length) (place : Nat) :
    (spread round (roundsLeft enough least most?) (rounds round (min least enough) places)
        (rounds round (min least enough) places)).Has place ↔
      ∃ earlier, places.Has earlier ∧ ∃ count, least ≤ count ∧
        (∀ most ∈ most?, count ≤ max least most) ∧ Rounds leads count earlier place := by
  have start (next : Nat) : (rounds round (min least enough) places).Has next ↔
      ∃ earlier, places.Has earlier ∧ Rounds leads least earlier next := by
    rw [walk.has_rounds _ within]
    constructor <;> rintro ⟨earlier, has, rounds⟩
    · exact ⟨earlier, has, (walk.rounds_min_iff long least (within earlier has)).mp rounds⟩
    · exact ⟨earlier, has, (walk.rounds_min_iff long least (within earlier has)).mpr rounds⟩
  have startWithin : (rounds round (min least enough) places).Within length := by
    intro next has
    obtain ⟨earlier, has, rounds⟩ := (start next).mp has
    exact rounds.keep (fun _ led => walk.inside led) (within earlier has)
  have frontier : Frontier length leads (rounds round (min least enough) places)
      (rounds round (min least enough) places) :=
    ⟨startWithin, fun _ has => has, fun _ _ has old => absurd has old⟩
  rw [walk.has_spread _ frontier]
  constructor
  · rintro ⟨next, has, passed, few, rest⟩
    obtain ⟨earlier, has, first⟩ := (start next).mp has
    refine ⟨earlier, has, least + passed, Nat.le_add_right least passed, ?_, first.append rest⟩
    rintro most rfl
    rw [roundsLeft] at few
    omega
  · rintro ⟨earlier, has, count, atLeast, bounded, rounds⟩
    obtain ⟨extra, rfl⟩ := Nat.exists_eq_add_of_le atLeast
    obtain ⟨next, first, rest⟩ := rounds.exists_of_add
    have begun := (start next).mpr ⟨earlier, has, first⟩
    refine ⟨next, begun, min extra enough, ?_,
      (walk.rounds_min_iff long extra (startWithin next begun)).mpr rest⟩
    cases most? with
    | none => exact Nat.min_le_right extra enough
    | some most =>
        have := bounded most rfl
        rw [roundsLeft]
        omega

end Walk

end ClassLint.Regex.Places
