import ClassLint.Text.Blank
import Mathlib.Data.List.DropRight
import Mathlib.Data.List.TakeWhile

/-! Trimming. A text is blanks, its trimmed form and blanks again, and the trimmed form is the only
part in the middle that neither starts nor ends with a blank. -/

namespace ClassLint

section Stripping

variable {α : Type} (p : α → Bool) (list : List α)

theorem not_of_head?_dropWhile {item : α} (first : (list.dropWhile p).head? = some item) :
    p item = false := by
  have stop := List.head?_dropWhile_not p list
  rw [first] at stop
  exact stop

theorem exists_stripped :
    ∃ before middle after, before ++ (middle ++ after) = list ∧
      middle = (list.dropWhile p).rdropWhile p ∧
      (∀ item ∈ before, p item = true) ∧ (∀ item ∈ after, p item = true) ∧
      (∀ item ∈ middle.head?, p item = false) ∧ ∀ item ∈ middle.getLast?, p item = false := by
  let rest := list.dropWhile p
  refine ⟨list.takeWhile p, rest.rdropWhile p, rest.rtakeWhile p, ?_, rfl,
    fun _ => List.mem_takeWhile_imp, fun _ => List.mem_rtakeWhile_imp, ?_, ?_⟩
  · rw [List.rdropWhile_append_rtakeWhile, List.takeWhile_append_dropWhile]
  · intro item first
    obtain ⟨tail, same⟩ := List.rdropWhile_prefix p (l := rest)
    apply not_of_head?_dropWhile p list
    change rest.head? = some item
    rw [← same, List.head?_append, first]
    rfl
  · intro item last
    obtain ⟨nonempty, rfl⟩ := List.mem_getLast?_eq_getLast last
    simpa using List.rdropWhile_last_not p rest nonempty

end Stripping

def AllBlank (t : Text) : Prop := ∀ c ∈ t, isBlank c = true

theorem ne_of_isBlank {c d : Char} (blank : isBlank c = true) (visible : isBlank d = false) :
    c ≠ d := by
  rintro rfl
  rw [blank] at visible
  cases visible

structure Trimmed (t : Text) : Prop where
  first : ∀ c ∈ t.head?, isBlank c = false
  last : ∀ c ∈ t.getLast?, isBlank c = false

def isTrimmed (t : Text) : Bool :=
  t.head?.all (fun c => !isBlank c) && t.getLast?.all (fun c => !isBlank c)

theorem isTrimmed_iff {t : Text} : isTrimmed t = true ↔ Trimmed t := by
  simp only [isTrimmed, Bool.and_eq_true, Option.all_eq_true, Bool.not_eq_true']
  exact ⟨fun ⟨first, last⟩ => ⟨first, last⟩, fun ⟨first, last⟩ => ⟨first, last⟩⟩

instance (t : Text) : Decidable (Trimmed t) := decidable_of_iff _ isTrimmed_iff

theorem allBlank_nil : AllBlank [] := fun _ member => absurd member List.not_mem_nil

theorem allBlank_append {s t : Text} : AllBlank (s ++ t) ↔ AllBlank s ∧ AllBlank t :=
  List.forall_mem_append

theorem eq_nil_of_allBlank {t : Text} (blank : AllBlank t)
    (visible : ∀ c ∈ t.getLast?, isBlank c = false) : t = [] := by
  by_contra nonempty
  have last := visible _ (List.getLast?_eq_some_getLast nonempty)
  rw [blank _ (List.getLast_mem nonempty)] at last
  cases last

theorem last_visible_of_append {s t : Text}
    (visible : ∀ c ∈ (s ++ t).getLast?, isBlank c = false) :
    ∀ c ∈ t.getLast?, isBlank c = false := by
  intro c last
  apply visible c
  rw [List.getLast?_append, last]
  rfl

theorem trimmed_of_visible {t : Text} (visible : ∀ c ∈ t, isBlank c = false) : Trimmed t :=
  ⟨fun c first => visible c (List.mem_of_mem_head? first),
    fun c last => visible c (List.mem_of_mem_getLast? last)⟩

theorem Trimmed.append {s t : Text} (first : Trimmed s) (second : Trimmed t) :
    Trimmed (s ++ t) := by
  constructor
  · intro c found
    rw [List.head?_append] at found
    rcases Option.or_eq_some_iff.mp found with found | ⟨_, found⟩
    · exact first.first c found
    · exact second.first c found
  · intro c found
    rw [List.getLast?_append] at found
    rcases Option.or_eq_some_iff.mp found with found | ⟨_, found⟩
    · exact second.last c found
    · exact first.last c found

theorem Trimmed.around {s t : Text} (first : Trimmed s) (second : Trimmed t) (left : s ≠ [])
    (right : t ≠ []) (middle : Text) : Trimmed (s ++ (middle ++ t)) := by
  constructor
  · rw [List.head?_append_of_ne_nil s left]
    exact first.first
  · rw [← List.append_assoc, List.getLast?_append_of_ne_nil _ right]
    exact second.last

theorem exists_trim (t : Text) :
    ∃ before after, AllBlank before ∧ AllBlank after ∧ before ++ (trim t ++ after) = t := by
  obtain ⟨before, _, after, whole, rfl, leading, trailing, _, _⟩ := exists_stripped isBlank t
  exact ⟨before, after, leading, trailing, whole⟩

theorem trimmed_trim (t : Text) : Trimmed (trim t) := by
  obtain ⟨_, _, _, _, rfl, _, _, first, last⟩ := exists_stripped isBlank t
  exact ⟨first, last⟩

theorem exists_trimEnd (t : Text) : ∃ after, AllBlank after ∧ trimEnd t ++ after = t :=
  ⟨t.rtakeWhile isBlank, fun _ => List.mem_rtakeWhile_imp, List.rdropWhile_append_rtakeWhile⟩

theorem trimStart_of_blanks {blanks t : Text} (blank : AllBlank blanks)
    (first : ∀ c ∈ t.head?, isBlank c = false) : trimStart (blanks ++ t) = t := by
  rw [trimStart, List.dropWhile_append_of_pos blank]
  cases t with
  | nil => rfl
  | cons c rest => rw [List.dropWhile_cons_of_neg (by simp [first c rfl])]

theorem takeWhile_of_blanks {blanks t : Text} (blank : AllBlank blanks)
    (first : ∀ c ∈ t.head?, isBlank c = false) : (blanks ++ t).takeWhile isBlank = blanks := by
  have whole := List.takeWhile_append_dropWhile (p := isBlank) (l := blanks ++ t)
  rw [← trimStart, trimStart_of_blanks blank first] at whole
  exact List.append_cancel_right whole

theorem trimEnd_of_blanks {blanks t : Text} (blank : AllBlank blanks)
    (last : ∀ c ∈ t.getLast?, isBlank c = false) : trimEnd (t ++ blanks) = t := by
  have reversed : AllBlank blanks.reverse := fun c member => blank c (List.mem_reverse.mp member)
  have start := trimStart_of_blanks (t := t.reverse) reversed (by simpa using last)
  rw [← List.reverse_append] at start
  exact List.reverse_eq_iff.mpr start

theorem trim_of_blanks {before t after : Text} (leading : AllBlank before)
    (trailing : AllBlank after) (trimmed : Trimmed t) : trim (before ++ (t ++ after)) = t := by
  cases t with
  | nil =>
      have blank : AllBlank (before ++ after) := allBlank_append.mpr ⟨leading, trailing⟩
      have start := trimStart_of_blanks (t := []) blank (by simp)
      rw [List.append_nil] at start
      rw [List.nil_append, trim, start]
      rfl
  | cons c rest =>
      rw [trim, trimStart_of_blanks leading (by simpa using trimmed.first),
        trimEnd_of_blanks trailing trimmed.last]

theorem trim_append_blanks {before after : Text} (leading : AllBlank before)
    (trailing : AllBlank after) (t : Text) : trim (before ++ (t ++ after)) = trim t := by
  obtain ⟨first, last, blankFirst, blankLast, whole⟩ := exists_trim t
  have regrouped : before ++ (t ++ after) = (before ++ first) ++ (trim t ++ (last ++ after)) := by
    nth_rewrite 1 [← whole]
    simp only [List.append_assoc]
  rw [regrouped]
  exact trim_of_blanks (allBlank_append.mpr ⟨leading, blankFirst⟩)
    (allBlank_append.mpr ⟨blankLast, trailing⟩) (trimmed_trim t)

theorem trim_eq_self {t : Text} (trimmed : Trimmed t) : trim t = t := by
  simpa using trim_of_blanks allBlank_nil allBlank_nil trimmed

theorem trim_eq_nil_iff {t : Text} : trim t = [] ↔ AllBlank t := by
  constructor
  · intro empty
    obtain ⟨before, after, leading, trailing, whole⟩ := exists_trim t
    rw [empty, List.nil_append] at whole
    rw [← whole]
    exact allBlank_append.mpr ⟨leading, trailing⟩
  · intro blank
    have whole := trim_of_blanks blank allBlank_nil (trimmed_of_visible (t := []) (by simp))
    simpa using whole

def StartsVisibly (t : Text) : Prop := ∃ c ∈ t.head?, isBlank c = false

theorem Trimmed.startsVisibly {t : Text} (trimmed : Trimmed t) (nonempty : t ≠ []) :
    StartsVisibly t := by
  obtain ⟨c, rest, rfl⟩ := List.exists_cons_of_ne_nil nonempty
  exact ⟨c, rfl, trimmed.first c rfl⟩

theorem trim_ne_nil {t : Text} (first : StartsVisibly t) : trim t ≠ [] := by
  intro empty
  obtain ⟨c, head, visible⟩ := first
  have blank := trim_eq_nil_iff.mp empty c (List.mem_of_mem_head? head)
  rw [visible] at blank
  cases blank

end ClassLint
