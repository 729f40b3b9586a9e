import ClassLint.Proofs.JsonReading

/-! The values that are read. Their integers are in range and their brackets nest within the budget,
and both still hold once the members of objects are put in order, which a second time changes
nothing. Whether two values are equal can be decided. -/

namespace ClassLint

def JsonNumber.InRange : JsonNumber → Prop
  | .natural n => n < 1 <<< 64
  | .negative n => 1 ≤ n ∧ n ≤ 1 <<< 63
  | .binary _ => True

namespace Json

inductive FloatFree : Json → Prop where
  | null : FloatFree .null
  | bool (value : Bool) : FloatFree (.bool value)
  | number {n : JsonNumber} (exact : ∀ x, n ≠ .binary x) : FloatFree (.number n)
  | string (t : Text) : FloatFree (.string t)
  | array {items : List Json} (inside : ∀ item ∈ items, FloatFree item) :
      FloatFree (.array items)
  | object {members : List (Text × Json)} (inside : ∀ member ∈ members, FloatFree member.2) :
      FloatFree (.object members)

theorem Within.isInteger {budget : Nat} {value : Json}
    (within : Within JsonNumber.InRange budget value) (free : FloatFree value) :
    Within JsonNumber.IsInteger budget value := by
  induction within with
  | null => exact .null
  | bool value => exact .bool value
  | @number _ n fits =>
      cases free with
      | number exact =>
          cases n with
          | natural n => exact .number fits
          | negative n => exact .number fits
          | binary x => exact absurd rfl (exact x)
  | string t => exact .string t
  | array inside ih =>
      cases free with
      | array free => exact .array fun item member => ih item member (free item member)
  | object inside ih =>
      cases free with
      | object free => exact .object fun item member => ih item member (free item member)

/-! ### Reading -/

theorem inRange_of_number? {l : Literal} {negative : Bool} {n : JsonNumber}
    (number : l.number? negative = some n) : n.InRange := by
  rw [Literal.number?] at number
  split_ifs at number with plain positive signed
  · cases number
    simp only [Bool.and_eq_true, decide_eq_true_eq] at plain
    exact plain.2
  · cases number
    simpa only [JsonNumber.InRange, Bool.and_eq_true, decide_eq_true_eq] using signed
  · cases number
    exact trivial
  · obtain ⟨x, -, rfl⟩ := Option.map_eq_some_iff.mp number
    exact trivial

theorem within_of_readNumber {negative : Bool} {t rest : Text} {value : Json}
    (read : readNumber negative t = .ok (value, rest)) (budget : Nat) :
    Within JsonNumber.InRange budget value := by
  rw [readNumber] at read
  cases literal : readLiteral t with
  | error fault =>
      rw [literal] at read
      cases read
  | ok taken =>
      rw [literal] at read
      cases number : taken.1.number? negative with
      | none => simp [number] at read
      | some n =>
          simp only [number, Except.ok.injEq, Prod.mk.injEq] at read
          rw [← read.1]
          exact .number (inRange_of_number? number)

theorem within_of_readScalar {t rest : Text} {value : Json}
    (read : readScalar t = .ok (value, rest)) (budget : Nat) :
    Within JsonNumber.InRange budget value := by
  unfold readScalar at read
  split at read
  · cases read
  · obtain ⟨taken, -, same⟩ := exists_of_map_eq_ok read
    cases same
    exact .string taken.1
  · exact within_of_readNumber read budget
  · obtain ⟨rest, -, same⟩ := exists_of_map_eq_ok read
    cases same
    exact .null
  · obtain ⟨rest, -, same⟩ := exists_of_map_eq_ok read
    cases same
    exact .bool true
  · obtain ⟨rest, -, same⟩ := exists_of_map_eq_ok read
    cases same
    exact .bool false
  · split_ifs at read
    exact within_of_readNumber read budget

/-- What the three readers give with this much fuel is in bounds. -/
structure ReadsWithin (fuel : Nat) : Prop where
  value : ∀ {budget t value rest}, 0 < budget → readValue fuel budget t = .ok (value, rest) →
    Within JsonNumber.InRange budget value
  items : ∀ {budget first t items rest}, 0 < budget →
    readItems fuel budget first t = .ok (items, rest) →
    ∀ item ∈ items, Within JsonNumber.InRange budget item
  members : ∀ {budget first t members rest}, 0 < budget →
    readMembers fuel budget first t = .ok (members, rest) →
    ∀ member ∈ members, Within JsonNumber.InRange budget member.2

section Step

variable {fuel budget : Nat} {first : Bool} {t rest : Text}

theorem within_of_readValue_succ {value : Json} (before : ReadsWithin fuel)
    (read : readValue (fuel + 1) budget t = .ok (value, rest)) :
    Within JsonNumber.InRange budget value := by
  rw [readValue] at read
  split at read
  · split_ifs at read with shallow
    obtain ⟨⟨items, rest⟩, inside, same⟩ := exists_of_map_eq_ok read
    cases same
    obtain ⟨budget, rfl⟩ : ∃ n, budget = n + 2 := ⟨budget - 2, by omega⟩
    exact .array (before.items (Nat.succ_pos budget) inside)
  · split_ifs at read with shallow
    obtain ⟨⟨members, rest⟩, inside, same⟩ := exists_of_map_eq_ok read
    cases same
    obtain ⟨budget, rfl⟩ : ∃ n, budget = n + 2 := ⟨budget - 2, by omega⟩
    exact .object (before.members (Nat.succ_pos budget) inside)
  · exact within_of_readScalar read budget

theorem within_of_readItems_succ {items : List Json} (before : ReadsWithin fuel)
    (deep : 0 < budget) (read : readItems (fuel + 1) budget first t = .ok (items, rest)) :
    ∀ item ∈ items, Within JsonNumber.InRange budget item := by
  rw [readItems] at read
  obtain ⟨next?, -, read⟩ := exists_of_bind_eq_ok read
  cases next? with
  | none =>
      cases read
      simp
  | some t =>
      obtain ⟨⟨item, t⟩, here, read⟩ := exists_of_bind_eq_ok read
      obtain ⟨⟨others, t⟩, later, read⟩ := exists_of_bind_eq_ok read
      cases read
      exact List.forall_mem_cons.mpr ⟨before.value deep here, before.items deep later⟩

theorem within_of_readMembers_succ {members : List (Text × Json)} (before : ReadsWithin fuel)
    (deep : 0 < budget) (read : readMembers (fuel + 1) budget first t = .ok (members, rest)) :
    ∀ member ∈ members, Within JsonNumber.InRange budget member.2 := by
  rw [readMembers] at read
  obtain ⟨next?, -, read⟩ := exists_of_bind_eq_ok read
  cases next? with
  | none =>
      cases read
      simp
  | some t =>
      obtain ⟨⟨key, t⟩, -, read⟩ := exists_of_bind_eq_ok read
      obtain ⟨t, -, read⟩ := exists_of_bind_eq_ok read
      obtain ⟨⟨value, t⟩, here, read⟩ := exists_of_bind_eq_ok read
      obtain ⟨⟨others, t⟩, later, read⟩ := exists_of_bind_eq_ok read
      cases read
      exact List.forall_mem_cons.mpr ⟨before.value deep here, before.members deep later⟩

end Step

/-- With one more call, each reader relies on what all three give with the calls left. -/
theorem readsWithin (fuel : Nat) : ReadsWithin fuel := by
  induction fuel with
  | zero =>
      refine ⟨?_, ?_, ?_⟩
      · intro budget t value rest deep read
        rw [readValue] at read
        cases read
      · intro budget first t items rest deep read
        rw [readItems] at read
        cases read
      · intro budget first t members rest deep read
        rw [readMembers] at read
        cases read
  | succ fuel before =>
      exact ⟨fun _ => within_of_readValue_succ before, within_of_readItems_succ before,
        within_of_readMembers_succ before⟩

/-! ### Members in order -/

theorem normalItems_eq_map (items : List Json) : normalItems items = items.map normal := by
  induction items with
  | nil => rw [normalItems, List.map_nil]
  | cons item items ih => rw [normalItems, ih, List.map_cons]

theorem normalMembers_eq_map (members : List (Text × Json)) :
    normalMembers members = members.map fun member => (member.1, member.2.normal) := by
  induction members with
  | nil => rw [normalMembers, List.map_nil]
  | cons member members ih => rw [normalMembers, ih, List.map_cons]

theorem mem_sortMembers {member : Text × Json} {members : List (Text × Json)}
    (inside : member ∈ sortMembers members) : member ∈ members := by
  simpa using mem_foldl_insertEntry inside

theorem increasing_sortMembers (members : List (Text × Json)) :
    Increasing (sortMembers members) :=
  increasing_foldl_insertEntry .nil members

theorem sortMembers_of_increasing {members : List (Text × Json)}
    (increasing : Increasing members) : sortMembers members = members :=
  foldl_insertEntry increasing

theorem normal_normal (value : Json) : value.normal.normal = value.normal := by
  induction value using inductOn with
  | null => simp only [normal]
  | bool value => simp only [normal]
  | number n => simp only [normal]
  | string t => simp only [normal]
  | array items ih =>
      simp only [normal, normalItems_eq_map, List.map_map]
      exact congrArg _ (List.map_congr_left ih)
  | object members ih =>
      have settled : normalMembers (sortMembers (normalMembers members)) =
          sortMembers (normalMembers members) := by
        rw [normalMembers_eq_map]
        refine (List.map_congr_left ?_).trans (List.map_id _)
        intro member inside
        have listed := mem_sortMembers inside
        rw [normalMembers_eq_map, List.mem_map] at listed
        obtain ⟨written, member', rfl⟩ := listed
        rw [ih written member']
        rfl
      simp only [normal]
      rw [settled, sortMembers_of_increasing (increasing_sortMembers _)]

theorem field?_normal {members : List (Text × Json)} (distinct : (members.map Prod.fst).Nodup)
    (name : Text) :
    (object members).normal.field? name = ((object members).field? name).map normal := by
  have kept : ((normalMembers members).map Prod.fst).Nodup := by
    rw [normalMembers_eq_map, List.map_map]
    exact distinct
  simp only [normal, field?, sortMembers]
  rw [find?_foldl_insertEntry kept, normalMembers_eq_map, List.find?_map]
  simp only [List.find?_nil, Option.or_none, Option.map_map]
  rfl

theorem Within.normal {good : JsonNumber → Prop} {budget : Nat} {value : Json}
    (within : Within good budget value) : Within good budget value.normal := by
  induction within with
  | null =>
      simp only [Json.normal]
      exact .null
  | bool value =>
      simp only [Json.normal]
      exact .bool value
  | number fits =>
      simp only [Json.normal]
      exact .number fits
  | string t =>
      simp only [Json.normal]
      exact .string t
  | array inside ih =>
      simp only [Json.normal, normalItems_eq_map]
      exact .array (List.forall_mem_map.mpr ih)
  | object inside ih =>
      simp only [Json.normal]
      refine .object fun member listed => ?_
      have listed := mem_sortMembers listed
      rw [normalMembers_eq_map, List.mem_map] at listed
      obtain ⟨written, member', rfl⟩ := listed
      exact ih written member'

/-! ### Equality -/

mutual

def same : Json → Json → Bool
  | .null, .null => true
  | .bool a, .bool b => a = b
  | .number m, .number n => m = n
  | .string s, .string t => s = t
  | .array items, .array others => sameItems items others
  | .object members, .object others => sameMembers members others
  | _, _ => false

def sameItems : List Json → List Json → Bool
  | [], [] => true
  | item :: items, other :: others => item.same other && sameItems items others
  | _, _ => false

def sameMembers : List (Text × Json) → List (Text × Json) → Bool
  | [], [] => true
  | (key, value) :: members, (other, found) :: others =>
    key = other && value.same found && sameMembers members others
  | _, _ => false

end

theorem sameItems_iff {items : List Json}
    (each : ∀ item ∈ items, ∀ other, item.same other = true ↔ item = other) (others : List Json) :
    sameItems items others = true ↔ items = others := by
  induction items generalizing others with
  | nil => cases others <;> simp [sameItems]
  | cons item items ih =>
      obtain ⟨here, later⟩ := List.forall_mem_cons.mp each
      cases others with
      | nil => simp [sameItems]
      | cons other others => simp [sameItems, here, ih later]

theorem sameMembers_iff {members : List (Text × Json)}
    (each : ∀ member ∈ members, ∀ other, member.2.same other = true ↔ member.2 = other)
    (others : List (Text × Json)) : sameMembers members others = true ↔ members = others := by
  induction members generalizing others with
  | nil => cases others <;> simp [sameMembers]
  | cons member members ih =>
      obtain ⟨here, later⟩ := List.forall_mem_cons.mp each
      cases others with
      | nil => simp [sameMembers]
      | cons other others => simp [sameMembers, here, ih later, Prod.ext_iff]

theorem same_iff (value other : Json) : value.same other = true ↔ value = other := by
  induction value using inductOn generalizing other with
  | null => cases other <;> simp [same]
  | bool value => cases other <;> simp [same]
  | number n => cases other <;> simp [same]
  | string t => cases other <;> simp [same]
  | array items ih => cases other <;> simp [same, sameItems_iff ih]
  | object members ih => cases other <;> simp [same, sameMembers_iff ih]

instance : DecidableEq Json := fun value other =>
  decidable_of_iff (value.same other = true) (same_iff value other)

end Json

end ClassLint
