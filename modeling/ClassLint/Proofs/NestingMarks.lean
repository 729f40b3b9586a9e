import ClassLint.Proofs.LintNotices

/-! Nesting marks that are left when a selector is resolved. Every mark of a text is replaced by the
text above it, so the marks that survive are those of the outermost text, and the notice is given
for exactly these. -/

namespace ClassLint

open Journaled

theorem hasNesting_substituteNesting (selector parent : Text) :
    hasNesting (substituteNesting selector parent) =
      (hasNesting selector && hasNesting parent) := by
  induction selector with
  | nil => rfl
  | cons c rest ih =>
      have first : hasNesting (c :: rest) = (decide (c = nestingMark) || hasNesting rest) := by
        simp [hasNesting, eq_comm]
      rw [substituteNesting, first]
      split
      · rename_i mark
        have joined : hasNesting (parent ++ substituteNesting rest parent) =
            (hasNesting parent || hasNesting (substituteNesting rest parent)) := by
          simp [hasNesting]
        rw [joined, ih]
        cases hasNesting parent <;> simp [mark]
      · rename_i other
        have kept : hasNesting (c :: substituteNesting rest parent) =
            hasNesting (substituteNesting rest parent) := by
          simp [hasNesting, Ne.symm other]
        rw [kept, ih]
        simp [other]

theorem hasNesting_placeBelow (selector parent : Text) :
    hasNesting (placeBelow selector parent) = hasNesting parent := by
  cases nested : hasNesting selector with
  | true => rw [placeBelow_of_nesting selector nested, hasNesting_substituteNesting, nested,
      Bool.true_and]
  | false => rw [placeBelow_of_plain selector nested,
      hasNesting_joinDescendant_of_plain parent selector nested]

theorem hasNesting_above (selector parent : Text) :
    hasNesting (if hasNesting selector then parent else joinDescendant parent selector) =
      hasNesting parent := by
  split
  · rfl
  · rename_i plain
    exact hasNesting_joinDescendant_of_plain parent selector (by simpa using plain)

theorem hasNesting_outermost?_congr {selector other : Text} (lineage : Lineage)
    (same : hasNesting selector = hasNesting other) :
    (outermost? selector lineage).map hasNesting = (outermost? other lineage).map hasNesting := by
  induction lineage generalizing selector other with
  | nil => simp [outermost?, same]
  | cons parents outer ih =>
      cases parents with
      | nil => rfl
      | cons parent others =>
          apply ih
          rw [hasNesting_above, hasNesting_above]

theorem hasNesting_head?_resolutions (selector : Text) (lineage : Lineage) :
    (resolutions selector lineage).head?.map hasNesting =
      (outermost? selector lineage).map hasNesting := by
  induction lineage generalizing selector with
  | nil => rfl
  | cons parents outer ih =>
      cases parents with
      | nil => rfl
      | cons parent others =>
          have above := hasNesting_above selector parent
          have placed : hasNesting ∘ placeBelow selector = hasNesting :=
            funext (hasNesting_placeBelow selector)
          rw [head?_resolutions_cons, Option.map_map, placed, ih, outermost?,
            hasNesting_outermost?_congr outer above]

/-- The text whose nesting marks are left: the first selector of the outermost list, or the selector
itself where there is no list. -/
def Lineage.markedText? (selector : Text) (lineage : Lineage) : Option Text :=
  match lineage.getLast? with
  | some parents => parents.head?
  | none => some selector

theorem markedText?_cons (selector above : Text) (parents : List Text) (outer : Lineage)
    (nonempty : outer ≠ []) :
    Lineage.markedText? selector (parents :: outer) = Lineage.markedText? above outer := by
  obtain ⟨front, last, rfl⟩ := List.eq_nil_or_concat' outer |>.resolve_left nonempty
  simp only [Lineage.markedText?, ← List.cons_append, List.getLast?_concat]

theorem hasNesting_outermost? {selector text : Text} {lineage : Lineage}
    (reaches : outermost? selector lineage = some text) :
    ∃ top, lineage.markedText? selector = some top ∧ hasNesting text = hasNesting top := by
  induction lineage generalizing selector with
  | nil => exact ⟨text, reaches, rfl⟩
  | cons parents outer ih =>
      cases parents with
      | nil => cases reaches
      | cons parent others =>
          obtain ⟨top, last, same⟩ := ih reaches
          by_cases above : outer = []
          · subst above
            cases last
            exact ⟨parent, rfl, same.trans (hasNesting_above selector parent)⟩
          · exact ⟨top, (markedText?_cons selector _ _ outer above).trans last, same⟩

theorem exists_of_resolved {selector resolved : Text} {lineage : Lineage}
    (found : (resolutions selector lineage).head? = some resolved) :
    ∃ text top, outermost? selector lineage = some text ∧
      lineage.markedText? selector = some top ∧ hasNesting resolved = hasNesting text ∧
      hasNesting text = hasNesting top := by
  have marks := hasNesting_head?_resolutions selector lineage
  rw [found, Option.map_some, eq_comm, Option.map_eq_some_iff] at marks
  obtain ⟨text, reaches, same⟩ := marks
  obtain ⟨top, last, above⟩ := hasNesting_outermost? reaches
  exact ⟨text, top, reaches, last, same.symm, above⟩

theorem nestingMessage?_of_outermost? {selector text : Text} {lineage : Lineage}
    (reaches : outermost? selector lineage = some text) :
    nestingMessage? selector lineage =
      if hasNesting text then some (nestingMessage text) else none := by
  rw [nestingMessage?, reaches, Option.filter_some]
  split <;> rfl

theorem told_of_announce {journal later : Journal} {message : Text}
    (announced : later.board = announce journal.board message) :
    let key := Journal.key "flatten" message
    (∀ other, other ∈ later.seen ↔ other ∈ journal.seen ∨ other = key) ∧
      later.notices = journal.notices ++
        if key ∈ journal.seen then [] else [("flatten".toList, message)] := by
  intro key
  have seen : later.seen = (announce journal.board message).1 := congrArg Prod.fst announced
  have notices : later.notices = (announce journal.board message).2 :=
    congrArg Prod.snd announced
  have known : key ∈ journal.seen ↔ nestingKey message ∈ journal.board.1 := Iff.rfl
  constructor
  · intro other
    rw [seen, mem_announce, eq_comm (a := other)]
    rfl
  · simp only [notices, announce, known]
    split
    · exact (List.append_nil _).symm
    · rfl

/-- The nesting marks that are left when a selector is resolved are those of the outermost ancestor
with selectors, in its first one, or those of the selector itself where there is no such ancestor.
If there are any, the notices seen gain the one key of the text that came to stand at the top, and
otherwise nothing; and nothing where the selector has no resolution. -/
theorem resolveFirst_marks (selector : Text) (ancestors : List Node) (journal : Journal) :
    let resolving := resolveFirst selector (.ofAncestors ancestors)
    let later := (resolving.run journal).2
    match resolving.answer journal with
    | none => later.seen = journal.seen ∧ later.notices = journal.notices
    | some resolved =>
      (∃ top, (Lineage.ofAncestors ancestors).markedText? selector = some top ∧
          ('&' ∈ resolved ↔ '&' ∈ top)) ∧
        if '&' ∈ resolved then
          ∃ text, outermost? selector (.ofAncestors ancestors) = some text ∧
            let key := Journal.key "flatten" (nestingMessage text)
            (∀ other, other ∈ later.seen ↔ other ∈ journal.seen ∨ other = key) ∧
              later.notices = journal.notices ++
                if key ∈ journal.seen then [] else [("flatten".toList, nestingMessage text)]
        else later.seen = journal.seen ∧ later.notices = journal.notices := by
  intro resolving later
  have answered : resolving.answer journal =
      (resolutions selector (.ofAncestors ancestors)).head? := answers_resolveFirst _ _ journal
  have board : later.board =
      announceAll (nestingMessage? selector (.ofAncestors ancestors)).toList journal.board :=
    announces_resolveFirstFrom selector (.ofAncestors ancestors) journal
  have silent (quiet : nestingMessage? selector (.ofAncestors ancestors) = none) :
      later.seen = journal.seen ∧ later.notices = journal.notices := by
    rw [quiet] at board
    exact Prod.mk.inj board
  rw [answered]
  cases found : (resolutions selector (.ofAncestors ancestors)).head? with
  | none =>
      have marks := hasNesting_head?_resolutions selector (.ofAncestors ancestors)
      rw [found, Option.map_none, eq_comm, Option.map_eq_none_iff] at marks
      -- Without a resolution there is no text at the top to tell of.
      exact silent (by rw [nestingMessage?, marks]; rfl)
  | some resolved =>
      obtain ⟨text, top, reaches, last, same, above⟩ := exists_of_resolved found
      have message := nestingMessage?_of_outermost? reaches
      refine ⟨⟨top, last, by rw [← hasNesting_iff, ← hasNesting_iff, same, above]⟩, ?_⟩
      split
      · rename_i marked
        rw [← hasNesting_iff, same] at marked
        rw [message, if_pos marked] at board
        exact ⟨text, reaches, told_of_announce board⟩
      · rename_i plain
        rw [← hasNesting_iff, same] at plain
        exact silent (by rw [message, if_neg plain])

/-- Two marks are replaced by a text with one mark, which is all that is left. -/
example :
    (resolveFirst "& + &" (.ofAncestors [.atStatement ⟨"media", "&", .start⟩,
      .rule ⟨".b", .start⟩ [], .rule ⟨"& > .a, .c", .start⟩ []])).answer .empty =
      some "& > .a .b + & > .a .b".toList := by
  decide +kernel

end ClassLint
