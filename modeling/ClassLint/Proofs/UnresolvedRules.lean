import ClassLint.Proofs.EmptyLists
import ClassLint.Proofs.Visits
import ClassLint.Sheet.Parse

/-! Style rules without a resolution. An ancestor that lists no selector leaves none to stand below.
Where it is a style rule, the walk cannot read it and ends before it comes to a rule inside; so on a
walk only an at-rule for nesting leaves a rule without one. -/

namespace ClassLint

/-! ### The selectors of a parsed stylesheet -/

namespace Node

mutual

def EachRule (p : StyleRule → Prop) : Node → Prop
  | .rule head children => p head ∧ EachRuleIn p children
  | .atBlock _ children => EachRuleIn p children
  | .atStatement _ | .declaration _ | .comment _ => True

def EachRuleIn (p : StyleRule → Prop) : List Node → Prop
  | [] => True
  | node :: rest => node.EachRule p ∧ EachRuleIn p rest

end

theorem eachRuleIn_iff (p : StyleRule → Prop) (nodes : List Node) :
    EachRuleIn p nodes ↔ ∀ node ∈ nodes, node.EachRule p := by
  induction nodes with
  | nil => simp [EachRuleIn]
  | cons node rest ih => rw [EachRuleIn, ih, List.forall_mem_cons]

mutual

theorem EachRule.of_mem_placements {p : StyleRule → Prop} {node : Node} (each : node.EachRule p)
    {ancestors : List Node} {placement : Placement}
    (member : placement ∈ node.placements ancestors) : p placement.1 := by
  cases node with
  | rule head children =>
      rw [placements] at member
      rcases List.mem_cons.mp member with rfl | inside
      · exact each.1
      · exact EachRuleIn.of_mem_placementsIn each.2 inside
  | atBlock head children => exact EachRuleIn.of_mem_placementsIn each member
  | atStatement | declaration | comment => cases member

theorem EachRuleIn.of_mem_placementsIn {p : StyleRule → Prop} {nodes : List Node}
    (each : EachRuleIn p nodes) {ancestors : List Node} {placement : Placement}
    (member : placement ∈ placementsIn ancestors nodes) : p placement.1 := by
  cases nodes with
  | nil => cases member
  | cons node rest =>
      rw [placementsIn, List.mem_append] at member
      rcases member with here | later
      · exact EachRule.of_mem_placements each.1 here
      · exact EachRuleIn.of_mem_placementsIn each.2 later

end

theorem eachRule_ofBlock {p : StyleRule → Prop} {prelude : Text} {position : Position}
    {children : List Node} (head : p ⟨prelude, position⟩)
    (inside : ∀ node ∈ children, node.EachRule p) :
    (ofBlock prelude position children).EachRule p := by
  have each := (eachRuleIn_iff p children).mpr inside
  unfold ofBlock
  split
  · exact each
  · exact ⟨head, each⟩

theorem eachRule_ofStatement {p : StyleRule → Prop} {t : Text} {position : Position} {node : Node}
    (read : ofStatement t position = .ok node) : node.EachRule p := by
  unfold ofStatement at read
  split at read
  · cases read
    trivial
  · obtain ⟨declaration, -, rfl⟩ := exists_of_map_eq_ok read
    trivial

end Node

theorem eachRule_of_buildNodes {p : StyleRule → Prop} {frames : List Frame} {done nodes : List Node}
    {entries : List (Except SheetError Event)} (built : buildNodes frames done entries = .ok nodes)
    (opened : ∀ entry ∈ entries, ∀ t position brace,
      entry = .ok (.opening t position brace) → p ⟨t, position⟩)
    (framed : ∀ frame ∈ frames, p ⟨frame.prelude, frame.position⟩ ∧
      ∀ node ∈ frame.before, node.EachRule p)
    (finished : ∀ node ∈ done, node.EachRule p) : ∀ node ∈ nodes, node.EachRule p := by
  fun_induction buildNodes frames done entries
  case case1 =>
    cases built
    simpa using finished
  case case2 => cases built
  case case3 => cases built
  case case4 ih =>
    obtain ⟨-, later⟩ := List.forall_mem_cons.mp opened
    exact ih built later framed (List.forall_mem_cons.mpr ⟨trivial, finished⟩)
  case case5 prelude position brace rest ih =>
    obtain ⟨here, later⟩ := List.forall_mem_cons.mp opened
    have head := here prelude position brace rfl
    exact ih built later (List.forall_mem_cons.mpr ⟨⟨head, finished⟩, framed⟩) (by simp)
  case case6 => cases built
  case case7 read ih =>
    obtain ⟨-, later⟩ := List.forall_mem_cons.mp opened
    have leaf := Node.eachRule_ofStatement (p := p) read
    exact ih built later framed (List.forall_mem_cons.mpr ⟨leaf, finished⟩)
  case case8 => cases built
  case case9 done position rest frame frames ih =>
    obtain ⟨-, later⟩ := List.forall_mem_cons.mp opened
    obtain ⟨⟨head, before⟩, others⟩ := List.forall_mem_cons.mp framed
    have inside : ∀ node ∈ done.reverse, node.EachRule p := by simpa using finished
    have closed := Node.eachRule_ofBlock head inside
    exact ih built later others (List.forall_mem_cons.mpr ⟨closed, before⟩)

theorem selector_of_statementStep {position : Position} {prelude : Prelude} {step : EventStep}
    (read : statementStep position prelude = .ok step) {t : Text} {place brace : Position}
    (found : .opening t place brace ∈ step.event?) : t ≠ [] ∧ Trimmed t := by
  have ended (t' : Text) (position : Position) :
      Event.opening t place brace ∉ statementStep.ended position t' := by
    unfold statementStep.ended
    split <;> simp
  unfold statementStep at read
  simp only at read
  split at read
  · split at read
    · cases read
    · rename_i nonempty
      cases read
      cases found
      exact ⟨by simpa using nonempty, trimmed_trim prelude.text⟩
  · cases read
    exact absurd found (ended _ _)
  · cases read
    exact absurd found (ended _ _)

theorem selector_of_nextEvent {dialect : Dialect} {position : Position} {c : Char} {rest : Text}
    {step : EventStep} (read : nextEvent dialect position c rest = .ok step) {t : Text}
    {place brace : Position} (found : .opening t place brace ∈ step.event?) :
    t ≠ [] ∧ Trimmed t := by
  unfold nextEvent at read
  split at read
  · cases read
    cases found
  split at read
  · cases read
    cases found
  split at read
  · split at read
    · cases read
    · cases read
      cases found
  split at read
  · cases read
    cases found
  split at read
  · cases read
  · exact selector_of_statementStep read found

theorem selector_of_events {dialect : Dialect} {position : Position} {source t : Text}
    {place brace : Position}
    (member : .ok (.opening t place brace) ∈ events dialect position source) :
    t ≠ [] ∧ Trimmed t := by
  fun_induction events dialect position source
  case case1 => cases member
  case case2 ih => exact ih member
  case case3 => simp at member
  case case4 step read _ ih =>
    rcases List.mem_append.mp member with here | later
    · obtain ⟨event, found, same⟩ := List.mem_map.mp here
      cases same
      exact selector_of_nextEvent read (Option.mem_toList.mp found)
    · exact ih later

theorem selector_of_parse {dialect : Dialect} {source : Text} {sheet : Sheet}
    (parsed : Sheet.parse dialect source = .ok sheet) {placement : Placement}
    (placed : placement ∈ sheet.placements) :
    placement.1.selector ≠ [] ∧ Trimmed placement.1.selector := by
  have opened : ∀ entry ∈ events dialect .start source, ∀ t position brace,
      entry = .ok (.opening t position brace) → t ≠ [] ∧ Trimmed t := by
    rintro entry member t position brace rfl
    exact selector_of_events member
  have each : ∀ node ∈ sheet,
      node.EachRule fun rule => rule.selector ≠ [] ∧ Trimmed rule.selector :=
    eachRule_of_buildNodes parsed opened (by simp) (by simp)
  exact Node.EachRuleIn.of_mem_placementsIn ((Node.eachRuleIn_iff _ sheet).mpr each) placed

/-! ### Coming to a style rule on a walk -/

mutual

theorem Node.outer_mem_of_placements {ancestors : List Node} {node : Node}
    {before after : List Placement} {placement : Placement}
    (split : node.placements ancestors = before ++ placement :: after) {head : StyleRule}
    {children outer : List Node} (inside : .rule head children :: outer <:+ placement.2) :
    .rule head children :: outer <:+ ancestors ∨ (head, outer) ∈ before := by
  cases node with
  | rule first nodes =>
      rw [placements, List.cons_eq_append_iff] at split
      rcases split with ⟨rfl, same⟩ | ⟨others, rfl, later⟩
      · cases same
        exact .inl inside
      · rcases Node.outer_mem_of_placementsIn later inside with above | found
        · rcases List.suffix_cons_iff.mp above with same | above
          · cases same
            exact .inr List.mem_cons_self
          · exact .inl above
        · exact .inr (List.mem_cons_of_mem _ found)
  | atBlock first nodes =>
      rw [placements] at split
      rcases Node.outer_mem_of_placementsIn split inside with above | found
      · rcases List.suffix_cons_iff.mp above with same | above
        · cases same
        · exact .inl above
      · exact .inr found
  | atStatement | declaration | comment => simp [placements] at split

theorem Node.outer_mem_of_placementsIn {ancestors nodes : List Node}
    {before after : List Placement} {placement : Placement}
    (split : placementsIn ancestors nodes = before ++ placement :: after) {head : StyleRule}
    {children outer : List Node} (inside : .rule head children :: outer <:+ placement.2) :
    .rule head children :: outer <:+ ancestors ∨ (head, outer) ∈ before := by
  cases nodes with
  | nil => simp [placementsIn] at split
  | cons node rest =>
      rw [placementsIn, List.append_eq_append_iff] at split
      rcases split with ⟨others, rfl, later⟩ | ⟨others, here, later⟩
      · rcases Node.outer_mem_of_placementsIn later inside with above | found
        · exact .inl above
        · exact .inr (List.mem_append_right _ found)
      · rcases List.cons_eq_append_iff.mp later with ⟨rfl, later⟩ | ⟨more, rfl, later⟩
        · have start : placementsIn ancestors rest = [] ++ placement :: after := later.symm
          rcases Node.outer_mem_of_placementsIn start inside with above | found
          · exact .inl above
          · cases found
        · exact Node.outer_mem_of_placements here inside

end

section Reaching

variable {σ ε : Type} {raise : SelectorError → ε} {visit : Visitor σ ε}

/-- Each placed style rule divides the walk in what comes before it, its own visits, and what comes
after it. -/
theorem walk_eq_of_placements {sheet : Sheet} {before after : List Placement}
    {placement : Placement} (split : sheet.placements = before ++ placement :: after) :
    walk raise visit sheet = (do
      forM before (visitPlacement raise visit)
      visitPlacement raise visit placement
      forM after (visitPlacement raise visit)) := by
  rw [walk_eq_forM, split, List.forM_append, List.forM_cons]

/-- The walk from a state and a journal comes to a style rule, with the state and the journal that
it has there: it has ended well for all style rules before that one. -/
def Sheet.WalkReaches (sheet : Sheet) (raise : SelectorError → ε) (visit : Visitor σ ε) (state : σ)
    (journal : Journal) (placement : Placement) (arrived : σ) (noted : Journal) : Prop :=
  ∃ before after, sheet.placements = before ++ placement :: after ∧
    ((forM before (visitPlacement raise visit)).run.run state).run journal =
      ((.ok (), arrived), noted)

theorem Follows.readable
    {stops : List (StyleRule × Except SelectorError (List Selector))} {calls : List (Call ε)}
    {outcome : Except ε Unit} (follows : Follows raise stops calls outcome)
    (ended : outcome = .ok ()) : ∀ stop ∈ stops, ∃ selectors, stop.2 = .ok selectors := by
  induction follows with
  | done => simp
  | unreadable => cases ended
  | @passed _ selectors _ _ _ _ _ _ ih =>
      exact List.forall_mem_cons.mpr ⟨⟨selectors, rfl⟩, ih ended⟩
  | refused => cases ended

theorem readable_of_forM {placements : List Placement} {state final : σ} {journal later : Journal}
    (ran : ((forM placements (visitPlacement raise visit)).run.run state).run journal =
      ((.ok (), final), later)) :
    ∀ placement ∈ placements, ∃ selectors, standaloneSelectors placement = .ok selectors := by
  obtain ⟨outcome, _, _, calls, same, -, follows⟩ :=
    logs_forM raise visit placements state journal []
  rw [ran] at same
  cases same
  intro placement member
  have stop : (placement.1, standaloneSelectors placement) ∈ itinerary placements :=
    List.mem_map_of_mem member
  exact follows.readable rfl _ stop

variable {sheet : Sheet} {state arrived : σ} {journal noted : Journal} {placement : Placement}

namespace Sheet.WalkReaches

theorem mem_placements
    (reaches : sheet.WalkReaches raise visit state journal placement arrived noted) :
    placement ∈ sheet.placements := by
  obtain ⟨before, after, split, -⟩ := reaches
  rw [split]
  simp

theorem outer_readable
    (reaches : sheet.WalkReaches raise visit state journal placement arrived noted)
    {head : StyleRule} {children outer : List Node}
    (inside : .rule head children :: outer <:+ placement.2) :
    (head, outer) ∈ sheet.placements ∧
      ∃ selectors, standaloneSelectors (head, outer) = .ok selectors := by
  obtain ⟨before, after, split, ran⟩ := reaches
  rcases Node.outer_mem_of_placementsIn split inside with above | found
  · cases List.eq_nil_of_suffix_nil above
  · refine ⟨?_, readable_of_forM ran _ found⟩
    rw [split]
    exact List.mem_append_left _ found

theorem ends_of_error
    (reaches : sheet.WalkReaches raise visit state journal placement arrived noted)
    {error : SelectorError} (unread : standaloneSelectors placement = .error error) :
    ∃ later, ((walk raise visit sheet).run.run state).run journal =
      ((.error (raise error), arrived), later) := by
  obtain ⟨before, after, split, ran⟩ := reaches
  have here := visitPlacement_ends_of_error raise visit placement arrived error unread
  have refused : Walk.Ends (visitPlacement raise visit placement >>= fun _ =>
      forM after (visitPlacement raise visit)) arrived (.error (raise error)) arrived :=
    Walk.ends_bind_of_error _ here
  rw [walk_eq_of_placements split, ExceptT.run_bind, StateT.run_bind, StateT.run_bind, ran]
  exact ⟨_, Prod.ext (refused noted) rfl⟩

end Sheet.WalkReaches

end Reaching

/-! ### Style rules without a selector to stand below -/

/-- An at-rule for nesting, in whatever letters its name is written, that lists no selector. -/
def Node.NestsNothing : Node → Prop
  | .atBlock head _ | .atStatement head =>
    head.name.map Char.toLower = "nest".toList ∧ ListsNothing head.params
  | .rule _ _ | .declaration _ | .comment _ => False

theorem selectors?_eq_nil_iff (node : Node) :
    node.selectors? = some [] ↔ node.NestsNothing ∨
      ∃ head children, node = .rule head children ∧ ListsNothing head.selector := by
  rw [selectors?_eq_map_commaList?]
  cases node <;>
    simp [Node.commaList?, Node.NestsNothing, selectorTexts_eq_nil_iff]

/-- A selector has no resolution exactly if an ancestor lists nothing. -/
theorem answer_resolveFirst_eq_none_iff (selector : Text) (ancestors : List Node)
    (journal : Journal) :
    (resolveFirst selector (.ofAncestors ancestors)).answer journal = none ↔
      ∃ node ∈ ancestors, node.selectors? = some [] := by
  rw [answers_resolveFirst selector _ journal, List.head?_eq_none_iff, resolutions_eq_nil_iff,
    Lineage.ofAncestors, List.mem_filterMap]

/-- A walk over a parsed stylesheet comes to no style rule inside one that lists only commas and
blanks. So the selector of a rule that it comes to has no resolution exactly if the rule stands
inside an at-rule for nesting that lists nothing. A rule that lists nothing ends the walk where it
is, with an error about what it resolves to. -/
theorem reached_unresolved_iff {σ ε : Type} {dialect : Dialect} {source : Text} {sheet : Sheet}
    (parsed : Sheet.parse dialect source = .ok sheet) (raise : SelectorError → ε)
    (visit : Visitor σ ε) {state arrived : σ} {journal noted : Journal} {placement : Placement}
    (reaches : sheet.WalkReaches raise visit state journal placement arrived noted) :
    (∀ head children, .rule head children ∈ placement.2 → ¬ListsNothing head.selector) ∧
    ((resolveFirst placement.1.selector (.ofAncestors placement.2)).answer noted = none ↔
      ∃ node ∈ placement.2, node.NestsNothing) ∧
    (ListsNothing placement.1.selector →
      ∃ fault later, ((walk raise visit sheet).run.run state).run journal =
        ((.error (raise ⟨fault, standaloneText placement⟩), arrived), later)) := by
  have listed : ∀ head children, .rule head children ∈ placement.2 →
      ¬ListsNothing head.selector := by
    intro head children member nothing
    obtain ⟨inner, outer, same⟩ := List.append_of_mem member
    have inside : .rule head children :: outer <:+ placement.2 := ⟨inner, same.symm⟩
    obtain ⟨placed, selectors, read⟩ := reaches.outer_readable inside
    obtain ⟨nonempty, trimmed⟩ := selector_of_parse parsed placed
    obtain ⟨fault, unread⟩ := standaloneSelectors_of_listsNothing nothing trimmed nonempty
    rw [unread] at read
    cases read
  refine ⟨listed, ?_, ?_⟩
  · rw [answer_resolveFirst_eq_none_iff]
    constructor
    · rintro ⟨node, member, empty⟩
      rcases (selectors?_eq_nil_iff node).mp empty with nests | ⟨head, children, rfl, nothing⟩
      · exact ⟨node, member, nests⟩
      · exact absurd nothing (listed head children member)
    · rintro ⟨node, member, nests⟩
      exact ⟨node, member, (selectors?_eq_nil_iff node).mpr (.inl nests)⟩
  · intro nothing
    obtain ⟨nonempty, trimmed⟩ := selector_of_parse parsed reaches.mem_placements
    obtain ⟨fault, unread⟩ := standaloneSelectors_of_listsNothing nothing trimmed nonempty
    obtain ⟨later, ended⟩ := reaches.ends_of_error unread
    exact ⟨fault, later, ended⟩

/-- A rule that lists nothing, in one that does not, in an at-rule that lists nothing. -/
def emptyNest : List Node :=
  let commaRule : Node := .rule ⟨",", ⟨1, 12⟩⟩ [.rule ⟨"c", ⟨1, 14⟩⟩ []]
  let classRule : Node := .rule ⟨".a", ⟨1, 9⟩⟩ [commaRule]
  [commaRule, classRule, .atBlock ⟨"Nest", ",", ⟨1, 1⟩⟩ [classRule]]

/-- The walk counts the class, and ends at the comma. -/
theorem reached_unresolved_iff_nest :
    let sheet := emptyNest.drop 2
    let ancestors := emptyNest.drop 1
    let count : Visitor Nat SelectorError := fun _ _ => do
      modifyThe Nat (· + 1)
      return .proceed
    let noted : Journal := ⟨[], #[.visited ".a" ".a"]⟩
    Sheet.parse .css "@Nest ,\x7b.a\x7b,\x7bc\x7b\x7d\x7d\x7d\x7d".toList = .ok sheet ∧
      Sheet.WalkReaches sheet id count 0 .empty (⟨",", ⟨1, 12⟩⟩, ancestors) 1 noted ∧
      ¬ListsNothing ".a" ∧
      (resolveFirst "," (.ofAncestors ancestors)).answer noted = none ∧
      ∃ fault later, ((walk id count sheet).run.run 0).run .empty =
        ((.error ⟨fault, standaloneText (⟨",", ⟨1, 12⟩⟩, ancestors)⟩, 1), later) := by
  intro sheet ancestors count noted
  have read : events .css .start "@Nest ,\x7b.a\x7b,\x7bc\x7b\x7d\x7d\x7d\x7d".toList =
      [.ok (.opening "@Nest ,".toList ⟨1, 1⟩ ⟨1, 8⟩), .ok (.opening ".a".toList ⟨1, 9⟩ ⟨1, 11⟩),
        .ok (.opening ",".toList ⟨1, 12⟩ ⟨1, 13⟩), .ok (.opening "c".toList ⟨1, 14⟩ ⟨1, 15⟩),
        .ok (.closing ⟨1, 16⟩), .ok (.closing ⟨1, 17⟩), .ok (.closing ⟨1, 18⟩),
        .ok (.closing ⟨1, 19⟩)] := by
    decide +kernel
  have parsed : Sheet.parse .css "@Nest ,\x7b.a\x7b,\x7bc\x7b\x7d\x7d\x7d\x7d".toList =
      .ok sheet := by
    rw [Sheet.parse, read]
    rfl
  let visits := forM [(⟨".a", ⟨1, 9⟩⟩, emptyNest.drop 2)] (visitPlacement id count)
  have visited : (visits.run.run 0).run .empty = ((.ok (), 1), noted) := by
    change @Eq ((Except SelectorError Unit × Nat) × Journal) _ _
    decide +kernel
  have reaches : Sheet.WalkReaches sheet id count 0 .empty (⟨",", ⟨1, 12⟩⟩, ancestors) 1 noted :=
    ⟨[(⟨".a", ⟨1, 9⟩⟩, emptyNest.drop 2)], [_], rfl, visited⟩
  have nests : ∃ node ∈ ancestors, node.NestsNothing :=
    ⟨_, List.mem_cons_of_mem _ List.mem_cons_self, by decide, by decide⟩
  obtain ⟨listed, unresolved, ended⟩ := reached_unresolved_iff parsed id count reaches
  exact ⟨parsed, reaches, listed _ _ List.mem_cons_self, unresolved.mpr nests,
    ended (by decide)⟩

end ClassLint
