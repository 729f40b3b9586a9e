import ClassLint.Unicode.Age
import ClassLint.Unicode.Break
import ClassLint.Unicode.Folding
import ClassLint.Unicode.Letter
import ClassLint.Unicode.Script

/-! Sets of characters, and the names they have in patterns. -/

namespace ClassLint.Regex

structure CharSet where
  ranges : Unicode.Ranges
  deriving DecidableEq, Repr

namespace CharSet

def mem (set : CharSet) (c : Char) : Bool := Unicode.covers set.ranges c.toNat

def nothing : CharSet := ⟨[]⟩

def singleton (c : Char) : CharSet := ⟨[(c.toNat, c.toNat)]⟩

def complement (a : CharSet) : CharSet := ⟨Unicode.Ranges.complement a.ranges⟩

def any : CharSet := complement nothing

def range (low high : Char) : CharSet :=
  if high.toNat < 0xD800 then ⟨[(low.toNat, high.toNat)]⟩
  else complement (complement ⟨[(low.toNat, high.toNat)]⟩)

def unionAll (sets : List CharSet) : CharSet := ⟨Unicode.Ranges.unionAll (sets.map ranges)⟩

def union (a b : CharSet) : CharSet := ⟨Unicode.Ranges.union a.ranges b.ranges⟩

def intersection (a b : CharSet) : CharSet := ⟨Unicode.Ranges.intersection a.ranges b.ranges⟩

def difference (a b : CharSet) : CharSet := ⟨Unicode.Ranges.difference a.ranges b.ranges⟩

def symmetricDifference (a b : CharSet) : CharSet := union (difference a b) (difference b a)

def ofRanges (list : List (Char × Char)) : CharSet :=
  unionAll (list.map fun pair => range pair.1 pair.2)

def singletons (list : List Nat) : CharSet :=
  ⟨Unicode.Ranges.unionAll (list.map fun n => [(n, n)])⟩

def foldedIn (low high : Nat) (more : List (Nat × List Nat) → List Nat) :
    List (Nat × List Nat) → List Nat
  | [] => []
  | (n, others) :: table =>
    if n < low then foldedIn low high more table
    else if n ≤ high then others ++ foldedIn low high more table
    else more ((n, others) :: table)

def foldedWith : Unicode.Ranges → List (Nat × List Nat) → List Nat
  | [], _ => []
  | (low, high) :: rest, table => foldedIn low high (foldedWith rest) table

def folded (a : CharSet) : CharSet := union a (singletons (foldedWith a.ranges Unicode.foldings))

def asciiFoldings : List (Nat × List Nat) :=
  (List.range 26).map (fun k => (65 + k, [97 + k])) ++
    (List.range 26).map (fun k => (97 + k, [65 + k]))

def asciiFolded (a : CharSet) : CharSet := union a (singletons (foldedWith a.ranges asciiFoldings))

def only? (set : CharSet) : Option Char :=
  match set.ranges with
  | [(low, high)] => if low = high then some (Char.ofNat low) else none
  | _ => none

def word : CharSet := ⟨Unicode.wordRanges⟩

def digit : CharSet := ⟨Unicode.digitRanges⟩

def blank : CharSet := ⟨Unicode.blankRanges⟩

end CharSet

inductive Posix where
  | alnum | alpha | ascii | blank | cntrl | digit | graph
  | lower | print | punct | space | upper | word | xdigit
  deriving DecidableEq, Repr

namespace Posix

def names : List (String × Posix) := [
  ("alnum", .alnum), ("alpha", .alpha), ("ascii", .ascii), ("blank", .blank), ("cntrl", .cntrl),
  ("digit", .digit), ("graph", .graph), ("lower", .lower), ("print", .print), ("punct", .punct),
  ("space", .space), ("upper", .upper), ("word", .word), ("xdigit", .xdigit)]

def ofName? (name : Text) : Option Posix :=
  (names.find? fun row => row.1.toList = name).map Prod.snd

def set : Posix → CharSet
  | .alnum => .ofRanges [('0', '9'), ('A', 'Z'), ('a', 'z')]
  | .alpha => .ofRanges [('A', 'Z'), ('a', 'z')]
  | .ascii => .range '\x00' '\x7f'
  | .blank => .ofRanges [('\t', '\t'), (' ', ' ')]
  | .cntrl => .ofRanges [('\x00', '\x1f'), ('\x7f', '\x7f')]
  | .digit => .ofRanges [('0', '9')]
  | .graph => .ofRanges [('!', '~')]
  | .lower => .ofRanges [('a', 'z')]
  | .print => .ofRanges [(' ', '~')]
  | .punct => .ofRanges [('!', '/'), (':', '@'), ('[', '`'), ('{', '~')]
  | .space => .ofRanges [('\t', '\r'), (' ', ' ')]
  | .upper => .ofRanges [('A', 'Z')]
  | .word => .ofRanges [('0', '9'), ('A', 'Z'), ('_', '_'), ('a', 'z')]
  | .xdigit => .ofRanges [('0', '9'), ('A', 'F'), ('a', 'f')]

end Posix

inductive PropertyQuery where
  | named (name : Text)
  | valued (name value : Text)
  deriving DecidableEq, Repr

namespace PropertyQuery

/-- Names are compared in lower case, without separators and without a leading `is`. The name that
would be left with the letter `c` alone keeps its three letters. -/
def normalName (name : Text) : Text :=
  let plain (t : Text) : Text :=
    (t.filter fun c => c.toNat < 128 && c ≠ ' ' && c ≠ '_' && c ≠ '-').map Char.toLower
  match name with
  | i :: s :: rest =>
    if i.toLower = 'i' && s.toLower = 's' then
      if plain rest = ['c'] then "isc" else plain rest
    else plain name
  | name => plain name

def category? (name : Text) : Option CharSet :=
  if name = "any" then some .any
  else if name = "assigned" then some (.complement ⟨Unicode.Category.cn.ranges⟩)
  else if name = "ascii" then some Posix.ascii.set
  else (Unicode.Category.ofName? name).map fun list => ⟨Unicode.categoryRanges list⟩

def property? (properties : List Unicode.Property) (name : Text) : Option CharSet :=
  (Unicode.Property.find? properties name).map fun property => ⟨property.ranges⟩

/-- Three short names are those of categories, though properties share them. -/
def named? (name : Text) : Option CharSet :=
  let binary? := if name = "cf" || name = "sc" || name = "lc" then none
    else property? Unicode.Property.binary name
  binary?.orElse fun _ => (category? name).orElse fun _ => property? Unicode.scripts name

def valued? (name value : Text) : Option CharSet :=
  if name = "gc" || name = "generalcategory" then category? value
  else if name = "sc" || name = "script" then property? Unicode.scripts value
  else if name = "scx" || name = "scriptextensions" then
    (Unicode.extendedScript? value).map fun script => ⟨script.ranges⟩
  else if name = "age" then (Unicode.age? value).map CharSet.mk
  else if name = "gcb" || name = "graphemeclusterbreak" then
    property? Unicode.graphemeBreaks value
  else if name = "wb" || name = "wordbreak" then property? Unicode.wordBreaks value
  else if name = "sb" || name = "sentencebreak" then property? Unicode.sentenceBreaks value
  else none

def set? : PropertyQuery → Option CharSet
  | .named name => named? (normalName name)
  | .valued name value => valued? (normalName name) (normalName value)

end PropertyQuery

end ClassLint.Regex
