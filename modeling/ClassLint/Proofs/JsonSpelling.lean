import ClassLint.Json.Reader
import ClassLint.Json.Writer

/-! What a JSON text of a value can be: each token is written in one way, and blanks may stand
between any two of them. Both ways in which values are printed are of this form. -/

namespace ClassLint.Json

/-- What holds of a whole if it holds of all that is in it holds of every value. -/
@[elab_as_elim]
theorem inductOn {motive : Json → Prop} (value : Json) (null : motive .null)
    (bool : ∀ value, motive (.bool value)) (number : ∀ n, motive (.number n))
    (string : ∀ t, motive (.string t))
    (array : ∀ items, (∀ item ∈ items, motive item) → motive (.array items))
    (object : ∀ members, (∀ member ∈ members, motive member.2) → motive (.object members)) :
    motive value :=
  Json.rec (motive_1 := motive) (motive_2 := fun items => ∀ item ∈ items, motive item)
    (motive_3 := fun members => ∀ member ∈ members, motive member.2)
    (motive_4 := fun member => motive member.2)
    null bool number string array object
    (by simp) (fun _ _ here others => List.forall_mem_cons.mpr ⟨here, others⟩)
    (by simp) (fun _ _ here others => List.forall_mem_cons.mpr ⟨here, others⟩)
    (fun _ _ here => here) value

/-! ### Blanks -/

def Gap (t : Text) : Prop := ∀ c ∈ t, isGap c = true

theorem gap_nil : Gap [] := by simp [Gap]

theorem Gap.append {s t : Text} (first : Gap s) (second : Gap t) : Gap (s ++ t) := by
  intro c member
  exact (List.mem_append.mp member).elim (first c) (second c)

theorem gap_newline (level : Nat) : Gap (newline level) := by
  intro c member
  rcases List.mem_cons.mp member with rfl | member
  · rfl
  · rw [List.eq_of_mem_replicate member]
    rfl

/-! ### The grammar -/

/-- What stands before an item: a comma, unless it is the first. -/
inductive Separates : Bool → Text → Prop where
  | first {before : Text} (blank : Gap before) : Separates true before
  | later {before after : Text} (blank : Gap before) (blankAfter : Gap after) :
      Separates false (before ++ ',' :: after)

mutual

/-- A text of a value. -/
inductive Spelled : Json → Text → Prop where
  | null : Spelled .null "null"
  | bool (value : Bool) : Spelled (.bool value) (if value then "true" else "false" : String)
  | number (n : JsonNumber) : Spelled (.number n) n.text
  | string (t : Text) : Spelled (.string t) (quoted t)
  | array {items : List Json} {t : Text} (inside : SpelledItems true items t) :
      Spelled (.array items) ('[' :: t ++ [']'])
  | object {members : List (Text × Json)} {t : Text} (inside : SpelledMembers true members t) :
      Spelled (.object members) ('{' :: t ++ ['}'])

/-- What stands in an array before the closing bracket, from its start or from behind an item. -/
inductive SpelledItems : Bool → List Json → Text → Prop where
  | nil {first : Bool} {gap : Text} (blank : Gap gap) : SpelledItems first [] gap
  | cons {first : Bool} {separator s t : Text} {item : Json} {items : List Json}
      (separates : Separates first separator) (spelled : Spelled item s)
      (others : SpelledItems false items t) :
      SpelledItems first (item :: items) (separator ++ s ++ t)

inductive SpelledMembers : Bool → List (Text × Json) → Text → Prop where
  | nil {first : Bool} {gap : Text} (blank : Gap gap) : SpelledMembers first [] gap
  | cons {first : Bool} {separator before after s t : Text} {key : Text} {value : Json}
      {members : List (Text × Json)} (separates : Separates first separator)
      (blank : Gap before) (blankAfter : Gap after) (spelled : Spelled value s)
      (others : SpelledMembers false members t) :
      SpelledMembers first ((key, value) :: members)
        (separator ++ quoted key ++ before ++ ':' :: after ++ s ++ t)

end

/-! ### Printing -/

theorem SpelledItems.behind {items : List Json} {t : Text} (inside : SpelledItems true items t)
    (some : items ≠ []) : SpelledItems false items (',' :: t) := by
  cases inside with
  | nil => exact absurd rfl some
  | cons separates spelled others =>
      cases separates with
      | first blank => exact .cons (.later gap_nil blank) spelled others

theorem SpelledMembers.behind {members : List (Text × Json)} {t : Text}
    (inside : SpelledMembers true members t) (some : members ≠ []) :
    SpelledMembers false members (',' :: t) := by
  cases inside with
  | nil => exact absurd rfl some
  | cons separates blank blankAfter spelled others =>
      cases separates with
      | first before => exact .cons (.later gap_nil before) blank blankAfter spelled others

theorem SpelledItems.append_gap {first : Bool} {items : List Json} {t gap : Text}
    (inside : SpelledItems first items t) (blank : Gap gap) :
    SpelledItems first items (t ++ gap) := by
  induction items generalizing first t with
  | nil =>
      cases inside with
      | nil before => exact .nil (before.append blank)
  | cons item items ih =>
      cases inside with
      | cons separates spelled others =>
          rw [List.append_assoc]
          exact .cons separates spelled (ih others)

theorem SpelledMembers.append_gap {first : Bool} {members : List (Text × Json)} {t gap : Text}
    (inside : SpelledMembers first members t) (blank : Gap gap) :
    SpelledMembers first members (t ++ gap) := by
  induction members generalizing first t with
  | nil =>
      cases inside with
      | nil before => exact .nil (before.append blank)
  | cons member members ih =>
      cases inside with
      | cons separates before after spelled others =>
          rw [List.append_assoc]
          exact .cons separates before after spelled (ih others)

theorem spelledItems_compact {items : List Json}
    (spelled : ∀ item ∈ items, Spelled item item.compact) :
    SpelledItems true items (compactItems items) := by
  induction items with
  | nil => exact .nil gap_nil
  | cons item rest ih =>
      obtain ⟨here, others⟩ := List.forall_mem_cons.mp spelled
      cases rest with
      | nil => simpa [compactItems] using SpelledItems.cons (.first gap_nil) here (.nil gap_nil)
      | cons next rest =>
          have later := (ih others).behind (List.cons_ne_nil next rest)
          simpa [compactItems] using SpelledItems.cons (.first gap_nil) here later

theorem spelledMembers_compact {members : List (Text × Json)}
    (spelled : ∀ member ∈ members, Spelled member.2 member.2.compact) :
    SpelledMembers true members (compactMembers members) := by
  induction members with
  | nil => exact .nil gap_nil
  | cons member rest ih =>
      obtain ⟨key, value⟩ := member
      obtain ⟨here, others⟩ := List.forall_mem_cons.mp spelled
      cases rest with
      | nil =>
          simpa [compactMembers] using
            SpelledMembers.cons (.first gap_nil) gap_nil gap_nil here (.nil gap_nil)
      | cons next rest =>
          have later := (ih others).behind (List.cons_ne_nil next rest)
          simpa [compactMembers] using
            SpelledMembers.cons (.first gap_nil) gap_nil gap_nil here later

theorem spelled_compact (value : Json) : Spelled value value.compact := by
  induction value using inductOn with
  | null => exact .null
  | bool value => cases value <;> exact .bool _
  | number n => exact .number n
  | string t => exact .string t
  | array items ih => exact .array (spelledItems_compact ih)
  | object members ih => exact .object (spelledMembers_compact ih)

theorem spelledItems_pretty {items : List Json} {level : Nat}
    (spelled : ∀ item ∈ items, Spelled item (item.pretty level)) :
    SpelledItems true items (prettyItems level items) := by
  induction items with
  | nil => exact .nil gap_nil
  | cons item rest ih =>
      obtain ⟨here, others⟩ := List.forall_mem_cons.mp spelled
      cases rest with
      | nil =>
          simpa [prettyItems] using
            SpelledItems.cons (.first (gap_newline level)) here (.nil gap_nil)
      | cons next rest =>
          have later := (ih others).behind (List.cons_ne_nil next rest)
          simpa [prettyItems] using SpelledItems.cons (.first (gap_newline level)) here later

theorem spelledMembers_pretty {members : List (Text × Json)} {level : Nat}
    (spelled : ∀ member ∈ members, Spelled member.2 (member.2.pretty level)) :
    SpelledMembers true members (prettyMembers level members) := by
  have space : Gap [' '] := by simp [Gap, isGap]
  induction members with
  | nil => exact .nil gap_nil
  | cons member rest ih =>
      obtain ⟨key, value⟩ := member
      obtain ⟨here, others⟩ := List.forall_mem_cons.mp spelled
      cases rest with
      | nil =>
          simpa [prettyMembers] using
            SpelledMembers.cons (.first (gap_newline level)) gap_nil space here (.nil gap_nil)
      | cons next rest =>
          have later := (ih others).behind (List.cons_ne_nil next rest)
          simpa [prettyMembers] using
            SpelledMembers.cons (.first (gap_newline level)) gap_nil space here later

/-- A value on lines of its own is spelled as a value on one line is, whatever the level. -/
theorem spelled_pretty (value : Json) (level : Nat) : Spelled value (value.pretty level) := by
  induction value using inductOn generalizing level with
  | null => exact .null
  | bool value => cases value <;> exact .bool _
  | number n => exact .number n
  | string t => exact .string t
  | array items ih =>
      cases items with
      | nil => exact .array (.nil gap_nil)
      | cons item items =>
          exact .array ((spelledItems_pretty fun item member =>
            ih item member (level + 1)).append_gap (gap_newline level))
  | object members ih =>
      cases members with
      | nil => exact .object (.nil gap_nil)
      | cons member members =>
          exact .object ((spelledMembers_pretty fun member inside =>
            ih member inside (level + 1)).append_gap (gap_newline level))

end ClassLint.Json
