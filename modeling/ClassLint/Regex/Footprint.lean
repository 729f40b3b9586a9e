import ClassLint.Regex.Program
import ClassLint.Regex.Utf8
import Std.Data.HashMap

/-! The size of a program laid out as an automaton over bytes. A pattern whose automaton would be
too large, read in either direction, is refused. -/

namespace ClassLint.Regex

/-- The states of an automaton so far, and the bytes of the lists that belong to them. -/
structure Layout where
  states : Nat
  lists : Nat
  deriving DecidableEq, Repr

namespace Layout

def stateSize : Nat := 32

def rangeSize : Nat := 8

def branchSize : Nat := 4

def sizeLimit : Nat := 10 * 1024 * 1024

def size (layout : Layout) : Nat := layout.states * stateSize + layout.lists

def add? (states lists : Nat) (layout : Layout) : Option Layout :=
  let layout : Layout := ⟨layout.states + states, layout.lists + lists⟩
  if layout.size ≤ sizeLimit then some layout else none

def state? : Layout → Option Layout := add? 1 0

def fork? : Layout → Option Layout := add? 1 (2 * branchSize)

def times? (step : Layout → Option Layout) : Nat → Layout → Option Layout
  | 0, layout => some layout
  | count + 1, layout =>
    match step layout with
    | some layout => times? step count layout
    | none => none

end Layout

/-- A part of an automaton: what laying it out makes of the layout before it. -/
structure Part where
  layOut? : Layout → Option Layout

structure Arrow where
  low : Nat
  high : Nat
  next : Nat
  deriving DecidableEq, Repr

def hashPrime : UInt64 := 1099511628211

def hashStart : UInt64 := 14695981039346656037

def mixHash (h : UInt64) (n : Nat) : UInt64 := (h ^^^ n.toUInt64) * hashPrime

/-- States of one set that have been laid out and may be shared, by slot. A state takes the slot
from the one that had it before. -/
abbrev Shared (α : Type) := Std.HashMap Nat (α × Nat)

def Shared.find? {α : Type} [DecidableEq α] (shared : Shared α) (slot : Nat) (key : α) :
    Option Nat :=
  match shared[slot]? with
  | some (known, state) => if known = key then some state else none
  | none => none

structure SetLayout (α : Type) where
  layout : Layout
  shared : Shared α

def nodeSlots : Nat := 10000

def nodeSlot (arrows : List Arrow) : Nat :=
  (arrows.foldl (fun h a => mixHash (mixHash (mixHash h a.low) a.high) a.next) hashStart).toNat
    % nodeSlots

/-- Nodes with the same arrows are one state. -/
def SetLayout.node? (arrows : List Arrow) (set : SetLayout (List Arrow)) :
    Option (Nat × SetLayout (List Arrow)) :=
  let slot := nodeSlot arrows
  match set.shared.find? slot arrows with
  | some state => some (state, set)
  | none => do
    let state := set.layout.states
    let layout ← set.layout.add? 1 (arrows.length * Layout.rangeSize)
    return (state, ⟨layout, set.shared.insert slot (arrows, state)⟩)

/-- Lays out the tree of byte ranges of at most that length, from its leaves to its root. -/
def SetLayout.tree? (goal : Nat) : Nat → List ByteRanges → SetLayout (List Arrow) →
    Option (Nat × SetLayout (List Arrow))
  | 0, _, set => some (goal, set)
  | depth + 1, runs, set => do
    let groups := runs.splitBy fun a b => a.head? = b.head?
    let (arrows, set) ← groups.foldlM (fun (arrows, set) group => do
      match group with
      | ((low, high) :: rest) :: _ =>
        let (next, set) ←
          if rest.isEmpty then some (goal, set) else tree? goal depth (group.map List.tail) set
        return (⟨low, high, next⟩ :: arrows, set)
      | _ => return (arrows, set)) (([] : List Arrow), set)
    set.node? arrows.reverse

abbrev BackwardKey := Nat × Nat × Nat

def backwardSlots : Nat := 1000

def backwardSlot (key : BackwardKey) : Nat :=
  (mixHash (mixHash (mixHash hashStart key.1) key.2.1) key.2.2).toNat % backwardSlots

/-- Chains of ranges read backward share the states of their ends. -/
def SetLayout.chain? : ByteRanges → Nat → SetLayout BackwardKey → Option (SetLayout BackwardKey)
  | [], _, set => do
    return { set with layout := ← set.layout.add? 0 Layout.branchSize }
  | (low, high) :: rest, next, set => do
    let key := (next, low, high)
    let slot := backwardSlot key
    match set.shared.find? slot key with
    | some state => chain? rest state set
    | none =>
      let state := set.layout.states
      let layout ← set.layout.state?
      chain? rest state ⟨layout, set.shared.insert slot (key, state)⟩

def CharSet.isAscii (set : CharSet) : Bool := set.ranges.all fun range => range.2 < 0x80

/-- A set of ASCII characters is one state. Other sets are trees of states read forward, and chains
of states read backward. -/
def CharSet.part (backward : Bool) (set : CharSet) : Part :=
  if set.isAscii then ⟨Layout.add? 2 (set.ranges.length * Layout.rangeSize)⟩
  else
    let runs := set.ranges.flatMap fun range => byteRanges range.1 range.2
    if backward then ⟨fun layout => do
      let goal := layout.states + 1
      let layout ← layout.add? 2 0
      let laid ← runs.foldlM (fun laid run => SetLayout.chain? run goal laid) ⟨layout, ∅⟩
      return laid.layout⟩
    else ⟨fun layout => do
      let goal := layout.states
      let layout ← layout.state?
      let (_, laid) ← SetLayout.tree? goal 4 runs ⟨layout, ∅⟩
      return laid.layout⟩

/-- The texts of a choice, by their first bytes. A text that ends at a node closes the node's list
of bytes and starts a new one; the newest list comes first. -/
inductive Trie where
  | node (lists : List (List (Nat × Trie)))

namespace Trie

def empty : Trie := .node [[]]

def lists : Trie → List (List (Nat × Trie))
  | .node lists => lists

def isLeaf (trie : Trie) : Bool := trie.lists.all List.isEmpty

def insert : List Nat → Trie → Trie
  | [], trie => if trie.isLeaf && 1 < trie.lists.length then trie else .node ([] :: trie.lists)
  | byte :: bytes, trie =>
    match trie.lists with
    | [] => .node [[(byte, insert bytes empty)]]
    | newest :: closed =>
      if newest.any fun entry => entry.1 = byte then
        .node (newest.map (fun entry =>
          if entry.1 = byte then (byte, insert bytes entry.2) else entry) :: closed)
      else .node ((newest ++ [(byte, insert bytes empty)]) :: closed)

def ofTexts (texts : List (List Nat)) : Trie :=
  texts.foldl (fun trie bytes => insert bytes trie) empty

mutual

/-- A node branches to each of its lists, and to the end for each text that ends at it. -/
def layOut? : Trie → Layout → Option Layout
  | .node lists, layout =>
    if lists.all List.isEmpty then some layout
    else do
      let branches := (lists.filter fun list => !list.isEmpty).length + (lists.length - 1)
      layOutLists? lists (← layout.add? 1 (branches * Layout.branchSize))

def layOutLists? : List (List (Nat × Trie)) → Layout → Option Layout
  | [], layout => some layout
  | list :: lists, layout => do
    let layout ← match list with
      | [] => some layout
      | [_] => layout.state?
      | list => layout.add? 1 (list.length * Layout.rangeSize)
    layOutLists? lists (← layOutList? list layout)

def layOutList? : List (Nat × Trie) → Layout → Option Layout
  | [], layout => some layout
  | (_, trie) :: rest, layout => do layOutList? rest (← trie.layOut? layout)

end

end Trie

def Program.onlyBytes? (backward : Bool) : Program → Option (List Nat)
  | .literal t => some (if backward then (bytesOfText t).reverse else bytesOfText t)
  | _ => none

/-- A repetition is as many copies of its body, with a state that branches for each copy that may be
left out and for going back. -/
def Part.loop (body : Part) (least : Nat) (most? : Option Nat) (takesSome : Bool) : Part :=
  match most? with
  | none =>
    match least with
    | 0 =>
      if takesSome then ⟨fun layout => do body.layOut? (← layout.fork?)⟩
      else ⟨fun layout => do (← (← (← body.layOut? layout).fork?).fork?).state?⟩
    | least => ⟨fun layout => do (← Layout.times? body.layOut? least layout).fork?⟩
  | some most =>
    let copies (layout : Layout) : Option Layout :=
      if least = 0 then layout.state? else Layout.times? body.layOut? least layout
    if least = most then ⟨copies⟩
    else if least = 0 && most = 1 then ⟨fun layout => do (← body.layOut? (← layout.fork?)).state?⟩
    else ⟨fun layout => do
      Layout.times? (fun layout => layout.fork?.bind body.layOut?) (most - least)
        (← (← copies layout).state?)⟩

def Part.sequence (parts : List Part) : Part :=
  ⟨fun layout => parts.foldlM (fun layout part => part.layOut? layout) layout⟩

/-- The branches that are left; the state that branches and the one where all branches meet come
after the second. -/
def Part.branches? (index : Nat) : List Part → Layout → Option Layout
  | [], layout => some layout
  | branch :: branches, layout => do
    let layout ← (← branch.layOut? layout).add? 0 Layout.branchSize
    let layout ← if index = 1 then layout.add? 2 0 else some layout
    branches? (index + 1) branches layout

mutual

/-- The automaton of a program. Captures are not kept where a text is read backward. -/
def Program.part (backward : Bool) : Program → Part
  | .empty | .look _ => ⟨Layout.state?⟩
  | .literal t => ⟨Layout.add? (bytesOfText t).length 0⟩
  | .set s => s.part backward
  | .capture _ body =>
    let inner := body.part backward
    if backward then inner
    else ⟨fun layout => do (← inner.layOut? (← layout.state?)).state?⟩
  | .loop body least most? _ =>
    (body.part backward).loop least most? (body.leastLength?.any (0 < ·))
  | .sequence items =>
    let parts := Program.parts backward items
    .sequence (if backward then parts.reverse else parts)
  | .choice branches =>
    match branches.mapM (Program.onlyBytes? backward) with
    | some texts =>
      let trie := Trie.ofTexts texts
      ⟨fun layout => do trie.layOut? (← layout.state?)⟩
    | none =>
      let parts := Program.parts backward branches
      ⟨Part.branches? 0 parts⟩

def Program.parts (backward : Bool) : List Program → List Part
  | [] => []
  | item :: items => item.part backward :: Program.parts backward items

end

/-- The whole automaton: what skips the text before a match, unless a match has to start where the
text does, then the program, and the state of success. Read forward, the whole match is captured. -/
def Program.automaton? (backward : Bool) (program : Program) : Option Layout := do
  let start : Layout := ⟨0, 0⟩
  let body := program.part backward
  let anchored := program.startsWith (if backward then .textEnd else .textStart) backward
  let layout ← if anchored then start.state?
    else (← start.fork?).add? 2 Layout.rangeSize
  if backward then (← body.layOut? layout).state?
  else (← body.layOut? (← layout.state?)).add? 2 0

/-- Whether the automaton is small enough in both directions. -/
def Program.fits (program : Program) : Bool :=
  (program.automaton? false).isSome && (program.automaton? true).isSome

end ClassLint.Regex
