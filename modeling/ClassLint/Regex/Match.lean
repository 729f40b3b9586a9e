import ClassLint.Regex.Program

/-! Searching a text: a program leads from a set of places in the text to a set of places. -/

namespace ClassLint.Regex

def Look.holds (before after : Option Char) : Look → Bool
  | .textStart => before.isNone
  | .textEnd => after.isNone
  | .lineStart => before.isNone || before = some '\n'
  | .lineEnd => after.isNone || after = some '\n'
  | .lineStartCrlf =>
    before.isNone || before = some '\n' || (before = some '\r' && after ≠ some '\n')
  | .lineEndCrlf =>
    after.isNone || after = some '\r' || (after = some '\n' && before ≠ some '\r')
  | .boundary letters => before.any letters.mem != after.any letters.mem
  | .noBoundary letters => before.any letters.mem == after.any letters.mem
  | .wordStart letters => !before.any letters.mem && after.any letters.mem
  | .wordEnd letters => before.any letters.mem && !after.any letters.mem
  | .wordStartHalf letters => !before.any letters.mem
  | .wordEndHalf letters => !after.any letters.mem

/-- A set of places in a text: the bit of weight `2 ^ k` stands for the place after `k`
characters. -/
abbrev Places := Nat

namespace Places

def ofTest (test : Option Char → Option Char → Bool) (before : Option Char) : Text → Places
  | [] => (test before none).toNat
  | c :: rest => (test before (some c)).toNat + 2 * ofTest test (some c) rest

def before (test : Char → Bool) (t : Text) : Places := ofTest (fun _ after => after.any test) none t

def all (t : Text) : Places := 1 <<< (t.length + 1) - 1

def without (a b : Places) : Places := a ^^^ (a &&& b)

def rounds (round : Places → Places) : Nat → Places → Places
  | 0, places => places
  | count + 1, places =>
    let next := round places
    if next = places then places else rounds round count next

/-- The places after at most that many more rounds, where only the newest places can lead to new
ones. -/
def spread (round : Places → Places) : Nat → Places → Places → Places
  | 0, seen, _ => seen
  | count + 1, seen, newest =>
    let fresh := without (round newest) seen
    if fresh = 0 then seen else spread round count (seen ||| fresh) fresh

end Places

/-- A program with its tests answered for one text. -/
inductive Route where
  /-- Takes a character at any of the places. -/
  | step (places : Places)
  /-- Stays at those of the places. -/
  | stay (places : Places)
  | sequence (items : List Route)
  | choice (branches : List Route)
  | loop (body : Route) (least : Nat) (most? : Option Nat)

mutual

def Program.sets : Program → List CharSet
  | .empty | .look _ => []
  | .literal text => text.map .singleton
  | .set s => [s]
  | .capture _ body | .loop body _ _ _ => body.sets
  | .sequence items | .choice items => Program.setsOfList items

def Program.setsOfList : List Program → List CharSet
  | [] => []
  | item :: items => item.sets ++ Program.setsOfList items

end

abbrev Marks := List (CharSet × Places)

def Marks.ofSets (t : Text) (sets : List CharSet) : Marks :=
  sets.eraseDups.map fun set => (set, Places.before set.mem t)

def Marks.get (marks : Marks) (t : Text) (set : CharSet) : Places :=
  match marks.find? fun mark => mark.1 = set with
  | some mark => mark.2
  | none => Places.before set.mem t

mutual

def Program.route (t : Text) (marks : Marks) : Program → Route
  | .empty => .sequence []
  | .literal text => .sequence (text.map fun c => .step (marks.get t (.singleton c)))
  | .set s => .step (marks.get t s)
  | .look l => .stay (Places.ofTest (fun before after => l.holds before after) none t)
  | .capture _ body => body.route t marks
  | .loop body least most? _ => .loop (body.route t marks) least most?
  | .sequence items => .sequence (Program.routes t marks items)
  | .choice branches => .choice (Program.routes t marks branches)

def Program.routes (t : Text) (marks : Marks) : List Program → List Route
  | [] => []
  | item :: items => item.route t marks :: Program.routes t marks items

end

mutual

/-- The places at which a match may end that starts at one of the given places. No more rounds of a
loop are needed than there are places, because a round that takes no character may as well be left
out or repeated. -/
def Route.run (enough : Nat) : Route → Places → Places
  | .step marked, places => (places &&& marked) <<< 1
  | .stay marked, places => places &&& marked
  | .sequence items, places => Route.runAll enough items places
  | .choice branches, places => Route.runAny enough branches places
  | .loop body least most?, places =>
    let round := fun places => body.run enough places
    let start := Places.rounds round (min least enough) places
    let more := match most? with
      | none => enough
      | some most => min (most - least) enough
    Places.spread round more start start

def Route.runAll (enough : Nat) : List Route → Places → Places
  | [], places => places
  | item :: items, places =>
    if places = 0 then 0 else Route.runAll enough items (item.run enough places)

def Route.runAny (enough : Nat) : List Route → Places → Places
  | [], _ => 0
  | branch :: branches, places => branch.run enough places ||| Route.runAny enough branches places

end

def Program.search (program : Program) (t : Text) : Bool :=
  (program.route t (Marks.ofSets t program.sets)).run (t.length + 1) (Places.all t) ≠ 0

end ClassLint.Regex
