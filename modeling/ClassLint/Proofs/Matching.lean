import ClassLint.Proofs.PlaceSets
import Mathlib.Data.List.Basic

/-! What the programs of regular expressions take of a text. The search over sets of places finds
some way to take a part of the text exactly if there is one. -/

namespace ClassLint.Regex

open Places

/-- What may be taken of a text, seen with what stands before it and after it. -/
abbrev Taking := Text → Text → Text → Prop

namespace Taking

def nothing : Taking := fun _ word _ => word = []

def never : Taking := fun _ _ _ => False

def exactly (text : Text) : Taking := fun _ word _ => word = text

def member (test : Char → Bool) : Taking := fun _ word _ => ∃ c, word = [c] ∧ test c = true

def here (test : Option Char → Option Char → Bool) : Taking := fun before word after =>
  word = [] ∧ test before.getLast? after.head? = true

def both (first second : Taking) : Taking := fun before word after =>
  ∃ front back, word = front ++ back ∧ first before front (back ++ after) ∧
    second (before ++ front) back after

def either (first second : Taking) : Taking := fun before word after =>
  first before word after ∨ second before word after

def times (body : Taking) : Nat → Taking
  | 0 => nothing
  | count + 1 => both body (times body count)

def between (body : Taking) (least : Nat) (most? : Option Nat) : Taking := fun before word after =>
  ∃ count, least ≤ count ∧ (∀ most ∈ most?, count ≤ max least most) ∧
    body.times count before word after

def Leads (t : Text) (taking : Taking) (place next : Nat) : Prop :=
  ∃ before word after, t = before ++ (word ++ after) ∧ before.length = place ∧
    (before ++ word).length = next ∧ taking before word after

variable {t : Text} {taking first second : Taking} {place next last : Nat}

theorem Leads.forward (leads : Leads t taking place next) : place ≤ next := by
  obtain ⟨before, word, after, -, rfl, rfl, -⟩ := leads
  simp

theorem Leads.inside (leads : Leads t taking place next) : next ≤ t.length := by
  obtain ⟨before, word, after, rfl, rfl, rfl, -⟩ := leads
  simp

theorem leads_nothing : Leads t nothing place next ↔ place = next ∧ place ≤ t.length := by
  constructor
  · rintro ⟨before, word, after, rfl, rfl, rfl, rfl⟩
    simp
  · rintro ⟨rfl, inside⟩
    have front := List.length_take_of_le inside
    exact ⟨t.take place, [], t.drop place, by simp, front, by rw [List.append_nil, front], rfl⟩

theorem leads_both : Leads t (both first second) place last ↔
    ∃ next, Leads t first place next ∧ Leads t second next last := by
  constructor
  · rintro ⟨before, word, after, whole, rfl, rfl, front, back, rfl, head, tail⟩
    refine ⟨(before ++ front).length, ⟨before, front, back ++ after, ?_, rfl, rfl, head⟩,
      before ++ front, back, after, ?_, rfl, ?_, tail⟩
    · simpa using whole
    · simpa using whole
    · simp
  · rintro ⟨next, ⟨before, front, rest, whole, rfl, rfl, head⟩, between, back, after, again,
      same, rfl, tail⟩
    -- both ways to cut the text have the same front
    rw [whole, ← List.append_assoc] at again
    obtain ⟨rfl, rfl⟩ := List.append_inj again same.symm
    exact ⟨before, front ++ back, after, by simpa using whole, rfl, by simp, front, back, rfl, head,
      tail⟩

theorem leads_either : Leads t (either first second) place next ↔
    Leads t first place next ∨ Leads t second place next := by
  constructor
  · rintro ⟨before, word, after, whole, start, stop, head | tail⟩
    · exact .inl ⟨before, word, after, whole, start, stop, head⟩
    · exact .inr ⟨before, word, after, whole, start, stop, tail⟩
  · rintro (⟨before, word, after, whole, start, stop, head⟩ |
      ⟨before, word, after, whole, start, stop, tail⟩)
    · exact ⟨before, word, after, whole, start, stop, .inl head⟩
    · exact ⟨before, word, after, whole, start, stop, .inr tail⟩

theorem leads_times {count : Nat} (inside : place ≤ t.length) :
    Leads t (taking.times count) place last ↔ Rounds (Leads t taking) count place last := by
  induction count generalizing place with
  | zero =>
      rw [times, leads_nothing]
      constructor
      · rintro ⟨rfl, -⟩
        exact .none place
      · rintro ⟨⟩
        exact ⟨rfl, inside⟩
  | succ count ih =>
      rw [times, leads_both]
      constructor
      · rintro ⟨next, head, tail⟩
        exact .more head ((ih head.inside).mp tail)
      · rintro (_ | ⟨head, tail⟩)
        exact ⟨_, head, (ih head.inside).mpr tail⟩

theorem leads_between {least : Nat} {most? : Option Nat} (inside : place ≤ t.length) :
    Leads t (taking.between least most?) place last ↔ ∃ count, least ≤ count ∧
      (∀ most ∈ most?, count ≤ max least most) ∧ Rounds (Leads t taking) count place last := by
  constructor
  · rintro ⟨before, word, after, whole, start, stop, count, atLeast, atMost, taken⟩
    exact ⟨count, atLeast, atMost,
      (leads_times inside).mp ⟨before, word, after, whole, start, stop, taken⟩⟩
  · rintro ⟨count, atLeast, atMost, rounds⟩
    obtain ⟨before, word, after, whole, start, stop, taken⟩ := (leads_times inside).mpr rounds
    exact ⟨before, word, after, whole, start, stop, count, atLeast, atMost, taken⟩

end Taking

/-! ### Programs -/

mutual

/-- What a program takes. -/
def Program.Takes : Program → Taking
  | .empty => .nothing
  | .literal text => .exactly text
  | .set s => .member s.mem
  | .look l => .here fun before after => l.holds before after
  | .capture _ body => body.Takes
  | .loop body least most? _ => body.Takes.between least most?
  | .sequence items => Program.TakesAll items
  | .choice branches => Program.TakesAny branches

def Program.TakesAll : List Program → Taking
  | [] => .nothing
  | item :: items => .both item.Takes (Program.TakesAll items)

def Program.TakesAny : List Program → Taking
  | [] => .never
  | branch :: branches => .either branch.Takes (Program.TakesAny branches)

end

section Running

open Taking

variable {t : Text} {taking other : Taking} {round more : Places → Places}

abbrev Walks (t : Text) (taking : Taking) (round : Places → Places) : Prop :=
  Walk t.length (Leads t taking) round

theorem walks_of_has_iff (has_iff : ∀ {places : Places}, places.Within t.length → ∀ place,
    (round places).Has place ↔ ∃ earlier, places.Has earlier ∧ Leads t taking earlier place) :
    Walks t taking round :=
  ⟨has_iff, Leads.forward, Leads.inside⟩

theorem walks_nothing : Walks t .nothing id := by
  apply walks_of_has_iff
  intro places within place
  simp only [leads_nothing, id]
  constructor
  · intro has
    exact ⟨place, has, rfl, within place has⟩
  · rintro ⟨earlier, has, rfl, -⟩
    exact has

theorem walks_step (test : Char → Bool) :
    Walks t (.member test) fun places => (places &&& before test t) <<< 1 := by
  apply walks_of_has_iff
  intro places _ place
  rw [has_shift]
  constructor
  · rintro ⟨earlier, rfl, has⟩
    obtain ⟨has, marked⟩ := has_and.mp has
    obtain ⟨front, c, rest, whole, rfl, holds⟩ := (has_before test t).mp marked
    exact ⟨_, has, front, [c], rest, whole, rfl, by simp, c, rfl, holds⟩
  · rintro ⟨earlier, has, front, word, rest, whole, rfl, rfl, c, rfl, holds⟩
    exact ⟨front.length, by simp, has_and.mpr ⟨has,
      (has_before test t).mpr ⟨front, c, rest, whole, rfl, holds⟩⟩⟩

theorem walks_stay (test : Option Char → Option Char → Bool) :
    Walks t (.here test) fun places => places &&& ofTest test none t := by
  apply walks_of_has_iff
  intro places _ place
  rw [has_and, has_ofTest]
  simp only [Option.or_none]
  constructor
  · rintro ⟨has, front, rest, whole, rfl, holds⟩
    exact ⟨_, has, front, [], rest, whole, rfl, by simp, rfl, holds⟩
  · rintro ⟨earlier, has, front, word, rest, whole, rfl, rfl, rfl, holds⟩
    rw [List.append_nil]
    exact ⟨has, front, rest, whole, rfl, holds⟩

/-- Where nothing is left, nothing more has to be tried. -/
theorem walks_both (first : Walks t taking round) (second : Walks t other more) :
    Walks t (.both taking other) fun places => if places = 0 then 0 else more (round places) := by
  apply walks_of_has_iff
  intro places within place
  simp only [leads_both]
  split_ifs with empty
  · subst empty
    simp [not_has_zero]
  · rw [second.has_iff (first.within_round within)]
    constructor
    · rintro ⟨next, has, tail⟩
      obtain ⟨earlier, has, head⟩ := (first.has_iff within next).mp has
      exact ⟨earlier, has, next, head, tail⟩
    · rintro ⟨earlier, has, next, head, tail⟩
      exact ⟨next, (first.has_iff within next).mpr ⟨earlier, has, head⟩, tail⟩

theorem walks_either (first : Walks t taking round) (second : Walks t other more) :
    Walks t (.either taking other) fun places => round places ||| more places := by
  apply walks_of_has_iff
  intro places within place
  simp only [has_or, first.has_iff within, second.has_iff within, leads_either, and_or_left,
    exists_or]

theorem walks_never : Walks t .never fun _ => 0 := by
  apply walks_of_has_iff
  simp [not_has_zero, Leads, never]

theorem walks_between (body : Walks t taking round) (least : Nat) (most? : Option Nat) :
    Walks t (taking.between least most?) fun places =>
      spread round (roundsLeft (t.length + 1) least most?)
        (rounds round (min least (t.length + 1)) places)
        (rounds round (min least (t.length + 1)) places) := by
  apply walks_of_has_iff
  intro places within place
  rw [body.has_loop (Nat.lt_add_one t.length) least most? within]
  constructor <;> rintro ⟨earlier, has, led⟩
  · exact ⟨earlier, has, (leads_between (within earlier has)).mpr led⟩
  · exact ⟨earlier, has, (leads_between (within earlier has)).mp led⟩

/-! ### The search -/

theorem get_ofSets (t : Text) (sets : List CharSet) (set : CharSet) :
    (Marks.ofSets t sets).get t set = before set.mem t := by
  rw [Marks.get]
  cases found : (Marks.ofSets t sets).find? fun mark => mark.1 = set with
  | none => rfl
  | some mark =>
      have same : mark.1 = set := by simpa using List.find?_some found
      obtain ⟨known, -, rfl⟩ := List.mem_map.mp (List.mem_of_find?_eq_some found)
      exact same ▸ rfl

theorem mem_singleton {c other : Char} : (CharSet.singleton c).mem other = true ↔ other = c := by
  have bounds : (CharSet.singleton c).mem other = true ↔
      c.toNat ≤ other.toNat ∧ other.toNat ≤ c.toNat := by
    simp [CharSet.mem, CharSet.singleton, Unicode.covers]
  rw [bounds, ← Nat.le_antisymm_iff, eq_comm, Char.toNat_inj]

variable {marks : Marks}

theorem walks_literal (known : ∀ set, marks.get t set = before set.mem t) (text : Text) :
    Walks t (.exactly text)
      (Route.runAll (t.length + 1) (text.map fun c => .step (marks.get t (.singleton c)))) := by
  induction text with
  | nil => exact walks_nothing
  | cons c text ih =>
      have split : exactly (c :: text) =
          both (member (CharSet.singleton c).mem) (exactly text) := by
        funext front word rest
        simp [exactly, both, member, mem_singleton]
      rw [split, List.map_cons, known]
      exact walks_both (walks_step _) ih

mutual

theorem walks_route (known : ∀ set, marks.get t set = before set.mem t) (program : Program) :
    Walks t program.Takes ((program.route t marks).run (t.length + 1)) := by
  cases program with
  | empty => exact walks_nothing
  | literal text => exact walks_literal known text
  | set s =>
      rw [Program.route, known]
      exact walks_step s.mem
  | look l => exact walks_stay fun before after => l.holds before after
  | capture number body => exact walks_route known body
  | loop body least most? lazy => exact walks_between (walks_route known body) least most?
  | sequence items => exact walks_runAll known items
  | choice branches => exact walks_runAny known branches

theorem walks_runAll (known : ∀ set, marks.get t set = before set.mem t) (items : List Program) :
    Walks t (Program.TakesAll items)
      (Route.runAll (t.length + 1) (Program.routes t marks items)) := by
  cases items with
  | nil => exact walks_nothing
  | cons item items => exact walks_both (walks_route known item) (walks_runAll known items)

theorem walks_runAny (known : ∀ set, marks.get t set = before set.mem t)
    (branches : List Program) :
    Walks t (Program.TakesAny branches)
      (Route.runAny (t.length + 1) (Program.routes t marks branches)) := by
  cases branches with
  | nil => exact walks_never
  | cons branch branches =>
      exact walks_either (walks_route known branch) (walks_runAny known branches)

end

/-- A search succeeds exactly if the program takes some part of the text. -/
theorem search_iff (program : Program) (t : Text) : program.search t = true ↔
    ∃ before word after, t = before ++ (word ++ after) ∧ program.Takes before word after := by
  have walks := walks_route (get_ofSets t program.sets) program
  rw [Program.search, decide_eq_true_iff, ← exists_has_iff]
  simp only [walks.has_iff fun _ has => (has_all t).mp has]
  constructor
  · rintro ⟨place, earlier, -, before, word, after, whole, -, -, taken⟩
    exact ⟨before, word, after, whole, taken⟩
  · rintro ⟨before, word, after, whole, taken⟩
    refine ⟨(before ++ word).length, before.length, (has_all t).mpr ?_, before, word, after, whole,
      rfl, rfl, taken⟩
    simp [whole]

end Running

/-! ### Words, wherever they stand -/

namespace Taking

variable {α : Type}

/-- Words with a property, whatever stands on their sides. -/
def ofWords (fits : Text → Prop) : Taking := fun _ word _ => fits word

theorem both_ofWords (first second : Text → Prop) : both (ofWords first) (ofWords second) =
    ofWords fun word => ∃ front back, word = front ++ back ∧ first front ∧ second back := rfl

theorem both_nothing (taking : Taking) : both taking nothing = taking := by
  funext before word after
  simp [both, nothing]

theorem nothing_both (taking : Taking) : both nothing taking = taking := by
  funext before word after
  simp [both, nothing]

theorem both_assoc (first second third : Taking) :
    both (both first second) third = both first (both second third) := by
  funext before word after
  apply propext
  constructor
  · rintro ⟨_, back, rfl, ⟨front, middle, rfl, head, next⟩, last⟩
    rw [← List.append_assoc] at head last
    exact ⟨front, middle ++ back, List.append_assoc .., head, middle, back, rfl, next, last⟩
  · rintro ⟨front, _, rfl, head, middle, back, rfl, next, last⟩
    rw [List.append_assoc] at head last
    exact ⟨front ++ middle, back, (List.append_assoc ..).symm,
      ⟨front, middle, rfl, head, next⟩, last⟩

theorem times_ofWords (fits : α → Prop) (spell : α → Text) (count : Nat) :
    (ofWords fun word => ∃ a, fits a ∧ word = spell a).times count =
      ofWords fun word => ∃ as : List α, as.length = count ∧ (∀ a ∈ as, fits a) ∧
        word = as.flatMap spell := by
  induction count with
  | zero =>
      funext before word after
      simp [times, nothing, ofWords]
  | succ count ih =>
      rw [times, ih, both_ofWords]
      funext before word after
      apply propext
      constructor
      · rintro ⟨_, _, rfl, ⟨a, first, rfl⟩, as, rfl, others, rfl⟩
        exact ⟨a :: as, rfl, List.forall_mem_cons.mpr ⟨first, others⟩, rfl⟩
      · rintro ⟨as, long, each, rfl⟩
        obtain ⟨a, as, rfl⟩ := List.exists_cons_of_length_eq_add_one long
        obtain ⟨first, others⟩ := List.forall_mem_cons.mp each
        exact ⟨spell a, as.flatMap spell, rfl, ⟨a, first, rfl⟩, as, Nat.succ.inj long, others, rfl⟩

theorem between_ofWords (fits : α → Prop) (spell : α → Text) (least : Nat) :
    (ofWords fun word => ∃ a, fits a ∧ word = spell a).between least none =
      ofWords fun word => ∃ as : List α, least ≤ as.length ∧ (∀ a ∈ as, fits a) ∧
        word = as.flatMap spell := by
  funext before word after
  simp only [between, times_ofWords]
  apply propext
  constructor
  · rintro ⟨count, atLeast, -, as, rfl, each, whole⟩
    exact ⟨as, atLeast, each, whole⟩
  · rintro ⟨as, atLeast, each, whole⟩
    exact ⟨as.length, atLeast, by simp, as, rfl, each, whole⟩

theorem between_words (fits : Text → Prop) (least : Nat) : (ofWords fits).between least none =
    ofWords fun word => ∃ parts : List Text, least ≤ parts.length ∧ (∀ part ∈ parts, fits part) ∧
      word = parts.flatten := by
  have self : ofWords fits = ofWords fun word => ∃ part, fits part ∧ word = id part := by
    simp
  rw [self, between_ofWords]
  simp only [List.flatMap_id]

theorem member_eq_ofWords (test : Char → Bool) :
    member test = ofWords fun word => ∃ c, test c = true ∧ word = [c] := by
  funext before word after
  simp only [member, ofWords, and_comm]

theorem between_member (test : Char → Bool) (least : Nat) : (member test).between least none =
    ofWords fun word => least ≤ word.length ∧ ∀ c ∈ word, test c = true := by
  rw [member_eq_ofWords, between_ofWords]
  funext before word after
  simp only [ofWords, List.flatMap_singleton', exists_eq_right_right']

end Taking

theorem takesAll_append (items others : List Program) : Program.TakesAll (items ++ others) =
    .both (Program.TakesAll items) (Program.TakesAll others) := by
  induction items with
  | nil => exact (Taking.nothing_both _).symm
  | cons item items ih =>
      rw [List.cons_append, Program.TakesAll, ih, Program.TakesAll, Taking.both_assoc]

theorem search_between_ends {items : List Program} {fits : Text → Prop}
    (takes : Program.TakesAll items = .ofWords fits) (t : Text) :
    (Program.sequence (.look .textStart :: (items ++ [.look .textEnd]))).search t = true ↔
      fits t := by
  rw [search_iff]
  simp only [Program.Takes, Program.TakesAll, takesAll_append, takes, Taking.both_nothing]
  constructor
  · rintro ⟨before, _, after, rfl, _, _, rfl, ⟨rfl, start⟩, word, _, rfl, fit, rfl, stop⟩
    have noneBefore : before = [] := by simpa [Look.holds] using start
    have noneAfter : after = [] := by simpa [Look.holds] using stop
    subst noneBefore noneAfter
    simpa [Taking.ofWords] using fit
  · intro fit
    exact ⟨[], t, [], by simp, [], t, rfl, ⟨rfl, rfl⟩, t, [], by simp, fit, rfl, rfl⟩

end ClassLint.Regex
