import ClassLint.Position
import Mathlib.Data.List.DropRight

/-! Offsets and positions. A position is counted up character by character; here it is read off the
text before an offset, and later offsets are shown to have later positions. -/

namespace ClassLint.Position

instance : LT Position :=
  ⟨fun first second =>
    first.line < second.line ∨ first.line = second.line ∧ first.column < second.column⟩

theorem lt_iff (first second : Position) :
    first < second ↔
      first.line < second.line ∨ first.line = second.line ∧ first.column < second.column := Iff.rfl

theorem not_lt_self (position : Position) : ¬position < position := by
  rw [lt_iff]
  omega

theorem lt_of_lt_of_lt {first second third : Position} (before : first < second)
    (after : second < third) : first < third := by
  rw [lt_iff] at before after ⊢
  omega

theorem lt_next (position : Position) (c : Char) : position < position.next c := by
  rw [lt_iff, next]
  split
  · exact .inl (Nat.lt_succ_self _)
  · exact .inr ⟨rfl, Nat.lt_succ_self _⟩

theorem lt_advance (position : Position) {t : Text} (nonempty : t ≠ []) :
    position < position.advance t := by
  induction t generalizing position with
  | nil => exact absurd rfl nonempty
  | cons c rest ih =>
      cases rest with
      | nil => exact lt_next position c
      | cons d rest =>
          exact lt_of_lt_of_lt (lt_next position c) (ih (position.next c) (List.cons_ne_nil d rest))

/-- The position of an offset: one more than the line feeds before it, and one more than the
characters between the last of them and the offset. -/
def ofOffset (source : Text) (offset : Nat) : Position :=
  ⟨1 + (source.take offset).count '\n', 1 + ((source.take offset).rtakeWhile (· ≠ '\n')).length⟩

theorem start_advance (t : Text) :
    start.advance t = ⟨1 + t.count '\n', 1 + (t.rtakeWhile (· ≠ '\n')).length⟩ := by
  induction t using List.reverseRecOn with
  | nil => rfl
  | append_singleton t c ih =>
      rw [advance_append, ih, List.rtakeWhile_concat, List.count_append]
      by_cases feed : c = '\n'
      · simp [advance, next, feed]
        omega
      · simp [advance, next, feed]
        omega

theorem ofOffset_eq_advance (source : Text) (offset : Nat) :
    ofOffset source offset = start.advance (source.take offset) := (start_advance _).symm

theorem ofOffset_append (before after : Text) :
    ofOffset (before ++ after) before.length = start.advance before := by
  rw [ofOffset_eq_advance, List.take_left]

theorem ofOffset_lt {source : Text} {offset later : Nat} (before : offset < later)
    (inside : later ≤ source.length) : ofOffset source offset < ofOffset source later := by
  obtain ⟨count, rfl⟩ := Nat.exists_eq_add_of_lt before
  have between : (source.drop offset).take (count + 1) ≠ [] := by
    intro empty
    have length := congrArg List.length empty
    rw [List.length_take, List.length_drop, List.length_nil] at length
    omega
  rw [ofOffset_eq_advance, ofOffset_eq_advance, Nat.add_assoc, List.take_add, advance_append]
  exact lt_advance _ between

theorem ofOffset_inj {source : Text} {offset other : Nat} (inside : offset ≤ source.length)
    (otherInside : other ≤ source.length)
    (same : ofOffset source offset = ofOffset source other) : offset = other := by
  rcases Nat.lt_trichotomy offset other with before | equal | after
  · have less := ofOffset_lt before otherInside
    rw [same] at less
    exact absurd less (not_lt_self _)
  · exact equal
  · have less := ofOffset_lt after inside
    rw [same] at less
    exact absurd less (not_lt_self _)

theorem line_ofOffset_le (source : Text) (offset : Nat) :
    (ofOffset source offset).line ≤ 1 + source.length := by
  have counted := List.count_le_length (a := '\n') (l := source.take offset)
  have shorter := List.length_take_le' offset source
  change 1 + (source.take offset).count '\n' ≤ 1 + source.length
  omega

theorem column_ofOffset_le (source : Text) (offset : Nat) :
    (ofOffset source offset).column ≤ 1 + source.length := by
  have counted := (List.rtakeWhile_suffix (· ≠ '\n') (source.take offset)).length_le
  have shorter := List.length_take_le' offset source
  change 1 + ((source.take offset).rtakeWhile (· ≠ '\n')).length ≤ 1 + source.length
  omega

theorem only_ofOffset {position : Position} {source : Text} {offset : Nat}
    (inside : offset ≤ source.length) (placed : position = ofOffset source offset) :
    ∀ other ≤ source.length, position = ofOffset source other → other = offset := by
  intro other within same
  exact ofOffset_inj within inside (same.symm.trans placed)

theorem fits_ofOffset {position : Position} {source : Text} {offset : Nat}
    (placed : position = ofOffset source offset) (short : source.length < 0xFFFFFFFF) :
    position.line ≤ 0xFFFFFFFF ∧ position.column ≤ 0xFFFFFFFF := by
  have line := line_ofOffset_le source offset
  have column := column_ofOffset_le source offset
  rw [← placed] at line column
  omega

end ClassLint.Position
