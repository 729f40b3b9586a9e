import ClassLint.Text.Basic
import Mathlib.Data.Char
import Mathlib.Data.List.Lex
import Mathlib.Data.List.Nodup

/-! Entries that are kept by increasing names, one for each name. The rules of a configuration and
the members of a JSON object are kept so, and put in by the same insertion. -/

namespace ClassLint

theorem precedes_iff_lt (s t : Text) : precedes s t = true ↔ s < t := by
  induction s generalizing t with
  | nil => cases t <;> simp [precedes]
  | cons a s ih =>
      cases t with
      | nil => simp [precedes]
      | cons b t => simp [precedes, ih, List.cons_lt_cons_iff]

section Entries

variable {α : Type} {name : Text} {value : α} {entries : List (Text × α)}

/-- The names increase, so there is one entry for each. -/
def Increasing (entries : List (Text × α)) : Prop :=
  entries.Pairwise fun entry later => precedes entry.1 later.1 = true

theorem mem_insertEntry {entry : Text × α} (member : entry ∈ insertEntry name value entries) :
    entry = (name, value) ∨ entry ∈ entries := by
  induction entries with
  | nil => exact .inl (List.mem_singleton.mp member)
  | cons first rest ih =>
      rw [insertEntry] at member
      split_ifs at member
      · rcases List.mem_cons.mp member with same | later
        · exact .inl same
        · exact .inr (List.mem_cons_of_mem first later)
      · exact List.mem_cons.mp member
      · rcases List.mem_cons.mp member with same | later
        · exact .inr (same ▸ List.mem_cons_self)
        · exact (ih later).imp_right (List.mem_cons_of_mem first)

theorem increasing_insertEntry (name : Text) (value : α) (increasing : Increasing entries) :
    Increasing (insertEntry name value entries) := by
  induction entries with
  | nil => exact List.pairwise_singleton _ _
  | cons first rest ih =>
      obtain ⟨least, others⟩ := List.pairwise_cons.mp increasing
      rw [insertEntry]
      split_ifs with same before
      · subst same
        exact List.pairwise_cons.mpr ⟨least, others⟩
      · refine List.pairwise_cons.mpr ⟨?_, increasing⟩
        intro entry member
        rcases List.mem_cons.mp member with rfl | later
        · exact before
        · have second := least entry later
          rw [precedes_iff_lt] at before second ⊢
          exact lt_trans before second
      · refine List.pairwise_cons.mpr ⟨?_, ih others⟩
        intro entry member
        rcases mem_insertEntry member with rfl | later
        · rw [precedes_iff_lt] at before ⊢
          exact lt_of_le_of_ne (not_lt.mp before) fun equal => same equal.symm
        · exact least entry later

theorem mem_foldl_insertEntry {entry : Text × α} {before : List (Text × α)}
    (member : entry ∈ entries.foldl (fun sorted next => insertEntry next.1 next.2 sorted) before) :
    entry ∈ before ∨ entry ∈ entries := by
  induction entries generalizing before with
  | nil => exact .inl member
  | cons first rest ih =>
      rcases ih member with earlier | later
      · rcases mem_insertEntry earlier with rfl | kept
        · exact .inr List.mem_cons_self
        · exact .inl kept
      · exact .inr (List.mem_cons_of_mem first later)

theorem increasing_foldl_insertEntry {before : List (Text × α)} (increasing : Increasing before)
    (entries : List (Text × α)) :
    Increasing (entries.foldl (fun sorted next => insertEntry next.1 next.2 sorted) before) := by
  induction entries generalizing before with
  | nil => exact increasing
  | cons first rest ih => exact ih (increasing_insertEntry first.1 first.2 increasing)

theorem insertEntry_of_last (last : ∀ entry ∈ entries, precedes entry.1 name = true) :
    insertEntry name value entries = entries ++ [(name, value)] := by
  induction entries with
  | nil => rfl
  | cons first rest ih =>
      obtain ⟨before, others⟩ := List.forall_mem_cons.mp last
      rw [precedes_iff_lt] at before
      have later : ¬precedes name first.1 = true := by
        rw [precedes_iff_lt]
        exact lt_asymm before
      rw [insertEntry, if_neg (ne_of_gt before), if_neg later, ih others, List.cons_append]

theorem foldl_insertEntry {before : List (Text × α)} (increasing : Increasing (before ++ entries)) :
    entries.foldl (fun sorted entry => insertEntry entry.1 entry.2 sorted) before =
      before ++ entries := by
  induction entries generalizing before with
  | nil => simp
  | cons first rest ih =>
      have whole : before ++ first :: rest = before ++ [first] ++ rest := by simp
      obtain ⟨-, -, separate⟩ := List.pairwise_append.mp increasing
      rw [whole] at increasing
      rw [List.foldl_cons, insertEntry_of_last fun entry member =>
        separate entry member first List.mem_cons_self, ih increasing, whole]

theorem find?_insertEntry (name other : Text) (value : α) (entries : List (Text × α)) :
    (insertEntry name value entries).find? (fun entry => entry.1 = other) =
      if other = name then some (name, value) else entries.find? fun entry => entry.1 = other := by
  induction entries with
  | nil => grind [insertEntry]
  | cons entry rest ih => grind [insertEntry]

theorem find?_foldl_insertEntry {before : List (Text × α)}
    (distinct : (entries.map Prod.fst).Nodup) (name : Text) :
    (entries.foldl (fun sorted entry => insertEntry entry.1 entry.2 sorted) before).find?
        (fun entry => entry.1 = name) =
      (entries.find? fun entry => entry.1 = name).or
        (before.find? fun entry => entry.1 = name) := by
  induction entries generalizing before with
  | nil => rfl
  | cons first rest ih =>
      obtain ⟨other, distinct⟩ := List.nodup_cons.mp distinct
      rw [List.foldl_cons, ih distinct, find?_insertEntry, List.find?_cons]
      by_cases same : first.1 = name
      · have missing : (rest.find? fun entry => entry.1 = name) = none := by
          rw [List.find?_eq_none]
          intro entry member
          have := List.mem_map_of_mem (f := Prod.fst) member
          grind
        subst same
        simp [missing]
      · simp [same, Ne.symm same]

end Entries

end ClassLint
