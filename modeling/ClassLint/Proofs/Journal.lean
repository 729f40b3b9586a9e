import ClassLint.Journal

/-! Answers and the journal. A computation may write what it likes; the lemmas here compose those
whose answer is settled before the journal is known. -/

namespace ClassLint.Journaled

variable {α β : Type}

def answer (action : Journaled α) (journal : Journal) : α := (action.run journal).1

/-- The answer is the same whatever the journal holds. -/
def Answers (action : Journaled α) (value : α) : Prop := ∀ journal, action.answer journal = value

theorem answers_answer {action : Journaled α} {value : α} (settled : Answers action value)
    (journal : Journal) : Answers action (action.answer journal) := by
  rw [settled journal]
  exact settled

theorem answers_pure (value : α) : Answers (pure value) value := fun _ => rfl

theorem answers_bind {action : Journaled α} {next : α → Journaled β} {value : α} {result : β}
    (first : Answers action value) (second : Answers (next value) result) :
    Answers (action >>= next) result := by
  intro journal
  have settled : (action.run journal).1 = value := first journal
  change (next (action.run journal).1).answer (action.run journal).2 = result
  rw [settled]
  exact second _

theorem answers_after (action : Journaled α) {next : α → Journaled β} {result : β}
    (second : ∀ value, Answers (next value) result) : Answers (action >>= next) result := by
  intro journal
  exact second (action.run journal).1 (action.run journal).2

theorem answers_map {action : Journaled α} {value : α} (f : α → β)
    (settled : Answers action value) : Answers (f <$> action) (f value) := by
  rw [map_eq_pure_bind]
  exact answers_bind settled (answers_pure _)

theorem answers_mapM {f : α → Journaled β} {g : α → β} (items : List α)
    (settled : ∀ item ∈ items, Answers (f item) (g item)) :
    Answers (items.mapM f) (items.map g) := by
  induction items with
  | nil => exact answers_pure []
  | cons item rest ih =>
      rw [List.mapM_cons, List.map_cons]
      apply answers_bind (settled item List.mem_cons_self)
      apply answers_bind (ih fun other member => settled other (List.mem_cons_of_mem item member))
      exact answers_pure _

theorem answers_run_bind {ε : Type} {action : ExceptT ε Journaled α} {outcome : Except ε α}
    {next : α → ExceptT ε Journaled β} {result : α → Except ε β}
    (first : Answers action.run outcome)
    (second : ∀ value, Answers (next value).run (result value)) :
    Answers (action >>= next).run (outcome >>= result) := by
  rw [ExceptT.run_bind]
  apply answers_bind first
  cases outcome with
  | error error => exact answers_pure _
  | ok value => exact second value

end ClassLint.Journaled
