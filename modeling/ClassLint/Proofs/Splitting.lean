import ClassLint.Nesting
import ClassLint.Proofs.Segments
import Mathlib.Data.List.Basic

/-! Splitting with a predicate that keeps a state. The predicate is asked once about each item, in
order and with its index; the answers alone decide the segments, which alternate and give back the
list, and of the runs only the empty ones at the end are left out. -/

namespace ClassLint

namespace Segment

variable {α σ : Type}

def separator? : Segment α → Option α
  | .run _ => none
  | .separator item => some item

def answered : Segment α → List (α × Bool)
  | .run items => items.map fun item => (item, false)
  | .separator item => [(item, true)]

/-- Runs and separators in turn, from a run to a run. -/
inductive Alternates : List (Segment α) → Prop where
  | last (items : List α) : Alternates [.run items]
  | divided (items : List α) (item : α) {segments : List (Segment α)}
      (more : Alternates segments) : Alternates (.run items :: .separator item :: segments)

/-- The predicate with a record of the calls it got. -/
def recording (separates : α → Nat → StateM σ Bool) (item : α) (index : Nat) :
    StateM (σ × List (α × Nat)) Bool := fun (state, calls) =>
  let (answer, state) := (separates item index).run state
  (answer, state, calls ++ [(item, index)])

/-! ### The calls -/

theorem run_mapM_cons {β : Type} {f : β → StateM σ Bool} {first : β} {others : List β}
    {state next final : σ} {answer : Bool} {given : List Bool}
    (asked : (f first).run state = (answer, next))
    (more : (others.mapM f).run next = (given, final)) :
    ((first :: others).mapM f).run state = (answer :: given, final) := by
  rw [List.mapM_cons, StateT.run_bind, asked]
  change (StateT.run (others.mapM f >>= fun given => pure (answer :: given)) next) = _
  rw [StateT.run_bind, more]
  rfl

theorem run_answers_cons {separates : α → Nat → StateM σ Bool} {item : α} {index : Nat}
    {rest : List α} {state next final : σ} {answer : Bool} {answered : List (α × Bool)}
    (asked : (separates item index).run state = (answer, next))
    (more : (answers separates (index + 1) rest).run next = (answered, final)) :
    (answers separates index (item :: rest)).run state = ((item, answer) :: answered, final) := by
  rw [answers, StateT.run_bind, asked]
  change (StateT.run (answers separates (index + 1) rest >>= fun more =>
    pure ((item, answer) :: more)) next) = _
  rw [StateT.run_bind, more]
  rfl

theorem exists_answers (separates : α → Nat → StateM σ Bool) (index : Nat) (list : List α)
    (state : σ) : ∃ given final,
    ((list.zipIdx index).mapM fun call => separates call.1 call.2).run state = (given, final) ∧
    given.length = list.length ∧
    (answers separates index list).run state = (list.zip given, final) ∧
    ∀ calls, (answers (recording separates) index list).run (state, calls) =
      (list.zip given, final, calls ++ list.zipIdx index) := by
  induction list generalizing index state with
  | nil =>
      refine ⟨[], state, rfl, rfl, rfl, fun calls => ?_⟩
      rw [List.zipIdx_nil, List.append_nil]
      rfl
  | cons item rest ih =>
      obtain ⟨given, final, asked, length, answered, recorded⟩ :=
        ih (index + 1) ((separates item index).run state).2
      refine ⟨((separates item index).run state).1 :: given, final, run_mapM_cons rfl asked,
        congrArg (· + 1) length, run_answers_cons rfl answered, fun calls => ?_⟩
      have more := recorded (calls ++ [(item, index)])
      rw [List.append_assoc, List.singleton_append] at more
      exact run_answers_cons rfl more

theorem run_split {separates : α → Nat → StateM σ Bool} {list : List α} {state final : σ}
    {answered : List (α × Bool)}
    (asked : (answers separates 0 list).run state = (answered, final)) :
    (split separates list).run state =
      (if list.isEmpty then [] else ofAnswers answered, final) := by
  rw [split, StateT.run_bind, asked]
  rfl

/-! ### The segments -/

theorem Alternates.extend {segments : List (Segment α)} (alternates : Alternates segments)
    (item : α) : Alternates (Segment.extend item segments) := by
  cases alternates with
  | last items => exact .last (item :: items)
  | divided items separator more => exact .divided (item :: items) separator more

theorem alternates_ofAnswers (answers : List (α × Bool)) : Alternates (ofAnswers answers) := by
  induction answers with
  | nil => exact .last []
  | cons answer rest ih =>
      obtain ⟨item, answer⟩ := answer
      cases answer with
      | true => exact .divided [] item ih
      | false => exact ih.extend item

theorem answered_ofAnswers (answers : List (α × Bool)) :
    (ofAnswers answers).flatMap answered = answers := by
  induction answers with
  | nil => rfl
  | cons answer rest ih =>
      obtain ⟨item, answer⟩ := answer
      cases answer with
      | true => exact congrArg ((item, true) :: ·) ih
      | false =>
          obtain ⟨items, segments, same⟩ := exists_ofAnswers rest
          rw [ofAnswers, same]
          rw [same] at ih
          exact congrArg ((item, false) :: ·) ih

theorem flatMap_items (segments : List (Segment α)) :
    segments.flatMap items = (segments.flatMap answered).map Prod.fst := by
  induction segments with
  | nil => rfl
  | cons segment segments ih =>
      rw [List.flatMap_cons, List.flatMap_cons, List.map_append, ih]
      cases segment with
      | run run => simp [items, answered, Function.comp_def]
      | separator item => rfl

theorem filterMap_separator? (segments : List (Segment α)) :
    segments.filterMap separator? =
      ((segments.flatMap answered).filter Prod.snd).map Prod.fst := by
  induction segments with
  | nil => rfl
  | cons segment segments ih =>
      rw [List.flatMap_cons, List.filter_append, List.map_append, ← ih]
      cases segment with
      | run items =>
          rw [List.filterMap_cons_none rfl]
          simp [answered, List.filter_map, Function.comp_def]
      | separator item => rfl

theorem exists_dropTrailingEmpty (lists : List (List α)) :
    (∃ count, lists = dropTrailingEmpty lists ++ List.replicate count []) ∧
      (dropTrailingEmpty lists).getLast? ≠ some [] := by
  induction lists with
  | nil => exact ⟨⟨0, rfl⟩, by simp [dropTrailingEmpty]⟩
  | cons first rest ih =>
      obtain ⟨⟨count, whole⟩, kept⟩ := ih
      rw [dropTrailingEmpty.eq_def]
      simp only
      split
      · rename_i nothing
        rw [nothing, List.nil_append] at whole
        exact ⟨⟨count + 1, by rw [whole, List.replicate_succ, List.nil_append]⟩, by simp⟩
      · rename_i nonempty
        refine ⟨⟨count, by rw [List.cons_append, ← whole]⟩, ?_⟩
        cases same : dropTrailingEmpty rest with
        | nil =>
            rw [List.getLast?_singleton]
            rintro ⟨⟩
            exact nonempty rfl same
        | cons next others =>
            rw [List.getLast?_cons_cons, ← same]
            exact kept

/-- A split asks the predicate once about each item, in order and with its index, and ends in the
state that the calls lead to. Nothing comes from the empty list, and from any other runs and
separators in turn, with the items answered by true as separators and all items in order. Of the
runs, those behind the last one that is not empty are left out. -/
theorem split_asks_and_alternates (separates : α → Nat → StateM σ Bool) (list : List α)
    (state : σ) : ∃ given final segments,
    (list.zipIdx.mapM fun call => separates call.1 call.2).run state = (given, final) ∧
    (split separates list).run state = (segments, final) ∧
    (split (recording separates) list).run (state, []) = (segments, final, list.zipIdx) ∧
    given.length = list.length ∧
    (list = [] → segments = []) ∧ (list ≠ [] → Alternates segments) ∧
    segments.flatMap answered = list.zip given ∧
    segments.filterMap separator? = ((list.zip given).filter Prod.snd).map Prod.fst ∧
    segments.flatMap items = list ∧
    (∃ count, segments.filterMap run? = runs segments ++ List.replicate count []) ∧
    (runs segments).getLast? ≠ some [] := by
  obtain ⟨given, final, asked, length, answered, recorded⟩ := exists_answers separates 0 list state
  refine ⟨given, final, if list.isEmpty then [] else ofAnswers (list.zip given), asked,
    run_split answered, run_split (recorded []), length, ?_⟩
  cases list with
  | nil => simp [runs, dropTrailingEmpty]
  | cons item rest =>
      have same := answered_ofAnswers ((item :: rest).zip given)
      rw [if_neg (by simp)]
      refine ⟨by simp, fun _ => alternates_ofAnswers _, same, ?_, ?_, exists_dropTrailingEmpty _⟩
      · rw [filterMap_separator?, same]
      · rw [flatMap_items, same, List.map_fst_zip (Nat.le_of_eq length.symm)]

/-- A comma in quotes divides nothing, and behind the last comma is an empty run. -/
theorem split_asks_and_alternates_quoted : ∃ segments final,
    (split CommaScan.separates "a,',',".toList).run .start = (segments, final) ∧
      Alternates segments ∧ segments.flatMap items = "a,',',".toList ∧
      segments.filterMap separator? = [',', ','] ∧ runs segments = ["a", "','"] := by
  obtain ⟨given, final, segments, -, whole, -, -, -, alternates, -, -, joined, -⟩ :=
    split_asks_and_alternates CommaScan.separates "a,',',".toList .start
  have value : ((split CommaScan.separates "a,',',".toList).run .start).1 =
      [.run "a", .separator ',', .run "','", .separator ',', .run ""] := by decide
  rw [whole] at value
  refine ⟨segments, final, whole, alternates (by decide), joined, ?_⟩
  rw [show segments = _ from value]
  decide

end Segment

end ClassLint
