import ClassLint.Segment

/-! Splitting a list, item by item. -/

namespace ClassLint

namespace Segment

variable {α : Type}

theorem exists_ofAnswers (answers : List (α × Bool)) :
    ∃ items segments, ofAnswers answers = .run items :: segments := by
  induction answers with
  | nil => exact ⟨[], [], rfl⟩
  | cons answer rest ih =>
      obtain ⟨items, segments, same⟩ := ih
      obtain ⟨item, _ | _⟩ := answer
      · exact ⟨item :: items, segments, by rw [ofAnswers, same]; rfl⟩
      · exact ⟨[], _, rfl⟩

def filter (keep : α → Bool) : Segment α → Segment α
  | .run items => .run (items.filter keep)
  | .separator item => .separator item

/-- The segments of a list, where the empty list is one empty run. -/
def parts (separates : α → Bool) (list : List α) : List (Segment α) :=
  ofAnswers (list.map fun item => (item, separates item))

theorem splitBy_eq_parts {separates : α → Bool} {list : List α} (nonempty : list ≠ []) :
    splitBy separates list = parts separates list := by
  rw [splitBy, if_neg (by simpa using nonempty), parts]

theorem exists_parts (separates : α → Bool) (list : List α) :
    ∃ items segments, parts separates list = .run items :: segments :=
  exists_ofAnswers _

theorem parts_cons_separator {separates : α → Bool} {item : α} (list : List α)
    (separator : separates item = true) :
    parts separates (item :: list) = .run [] :: .separator item :: parts separates list := by
  rw [parts, List.map_cons, separator]
  rfl

theorem parts_cons_item {separates : α → Bool} {item : α} (list : List α)
    (inside : separates item = false) :
    parts separates (item :: list) = extend item (parts separates list) := by
  rw [parts, List.map_cons, inside]
  rfl

theorem parts_append_separator {separates : α → Bool} {item : α} (front back : List α)
    (separator : separates item = true) :
    parts separates (front ++ item :: back) =
      parts separates front ++ .separator item :: parts separates back := by
  induction front with
  | nil => exact parts_cons_separator back separator
  | cons first front ih =>
      cases answer : separates first with
      | true => simp only [List.cons_append, parts_cons_separator _ answer, ih]
      | false =>
          obtain ⟨items, segments, same⟩ := exists_parts separates front
          rw [List.cons_append, parts_cons_item _ answer, parts_cons_item _ answer, ih, same]
          rfl

/-- Where no separator is taken out, taking items out and splitting can change places. -/
theorem parts_filter {separates keep : α → Bool}
    (kept : ∀ item, separates item = true → keep item = true) (list : List α) :
    parts separates (list.filter keep) = (parts separates list).map (Segment.filter keep) := by
  induction list with
  | nil => rfl
  | cons item list ih =>
      cases answer : separates item with
      | true =>
          rw [List.filter_cons_of_pos (kept item answer), parts_cons_separator _ answer,
            parts_cons_separator _ answer, ih]
          rfl
      | false =>
          obtain ⟨items, segments, same⟩ := exists_parts separates list
          rw [parts_cons_item list answer, same]
          rw [same] at ih
          cases stays : keep item with
          | true =>
              rw [List.filter_cons_of_pos stays, parts_cons_item _ answer, ih]
              simp [extend, Segment.filter, stays]
          | false =>
              rw [List.filter_cons_of_neg (by simp [stays]), ih]
              simp [extend, Segment.filter, stays]

end Segment

end ClassLint
