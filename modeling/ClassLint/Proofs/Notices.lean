import ClassLint.Proofs.Journal
import Mathlib.Data.List.Basic

/-! Notices over whole runs. A notice is given unless one of the same key was given since they were
last forgotten, and keys tell apart all notices of components without a closing bracket. -/

namespace ClassLint

namespace Journal

section Notify

variable {component message : Text} {journal : Journal}

theorem run_notify_of_seen (known : key component message ∈ journal.seen) :
    (notify component message).run journal = (false, journal) := by
  have found : journal.seen.contains (key component message) = true :=
    List.contains_iff_mem.mpr known
  simp only [notify, StateT.run_bind]
  change (if journal.seen.contains (key component message) = true then _ else _ :
    Journaled Bool).run journal = _
  rw [if_pos found]
  rfl

theorem run_notify_of_new (new : key component message ∉ journal.seen) :
    (notify component message).run journal =
      (true, ⟨key component message :: journal.seen,
        journal.entries.push (.notice component message)⟩) := by
  have missing : ¬journal.seen.contains (key component message) = true :=
    fun found => new (List.contains_iff_mem.mp found)
  simp only [notify, StateT.run_bind]
  change (if journal.seen.contains (key component message) = true then _ else _ :
    Journaled Bool).run journal = _
  rw [if_neg missing]
  rfl

end Notify

theorem notices_push_notice (seen : List Text) (entries : Array Entry) (component message : Text) :
    notices ⟨seen, entries.push (.notice component message)⟩ =
      notices ⟨seen, entries⟩ ++ [(component, message)] := by
  simp [notices]

/-- A component is read off a key up to the first closing bracket, unless it has one itself. -/
theorem key_eq_key_iff {component other message another : Text} (open₁ : ']' ∉ component)
    (open₂ : ']' ∉ other) :
    key component message = key other another ↔ component = other ∧ message = another := by
  constructor
  · intro same
    have texts : component ++ (']' :: ' ' :: message) = other ++ (']' :: ' ' :: another) := by
      simpa [key] using same
    have firsts := congrArg (List.takeWhile (· ≠ ']')) texts
    have plain (t rest : Text) (free : ']' ∉ t) :
        (t ++ ']' :: rest).takeWhile (· ≠ ']') = t := by
      rw [List.takeWhile_append_of_pos (by
        intro c member
        simpa using ne_of_mem_of_not_mem member free)]
      simp
    rw [plain _ _ open₁, plain _ _ open₂] at firsts
    subst firsts
    simpa using texts
  · rintro ⟨rfl, rfl⟩
    rfl

end Journal

/-! ### Calls one after the other -/

/-- A call that has to do with notices. -/
inductive NoticeCall where
  | notify (component message : Text)
  | forget
  deriving DecidableEq, Repr

namespace NoticeCall

def perform : NoticeCall → Journaled (Option Bool)
  | .notify component message => return some (← Journal.notify component message)
  | .forget => do
    Journal.forgetNotices
    return none

def performAll (calls : List NoticeCall) : Journaled (List (Option Bool)) := calls.mapM perform

/-- The notice that a call gave, by its answer. -/
def given? : NoticeCall × Option Bool → Option (Text × Text)
  | (.notify component message, some true) => some (component, message)
  | _ => none

/-- One of the calls since notices were last forgotten was for a notice of this key. -/
def Remembered (calls : List NoticeCall) (key : Text) : Prop :=
  ∃ before component message after, calls = before ++ .notify component message :: after ∧
    .forget ∉ after ∧ Journal.key component message = key

theorem remembered_cons (call : NoticeCall) (rest : List NoticeCall) (key : Text) :
    Remembered (call :: rest) key ↔ Remembered rest key ∨
      .forget ∉ rest ∧ ∃ component message, call = .notify component message ∧
        Journal.key component message = key := by
  constructor
  · rintro ⟨before, component, message, after, whole, kept, same⟩
    cases before with
    | nil =>
        cases whole
        exact .inr ⟨kept, component, message, rfl, same⟩
    | cons first before =>
        cases whole
        exact .inl ⟨before, component, message, after, rfl, kept, same⟩
  · rintro (⟨before, component, message, after, rfl, kept, same⟩ |
      ⟨kept, component, message, rfl, same⟩)
    · exact ⟨call :: before, component, message, after, rfl, kept, same⟩
    · exact ⟨[], component, message, rest, rfl, kept, same⟩

theorem run_performAll_cons (call : NoticeCall) (rest : List NoticeCall) (journal : Journal) :
    (performAll (call :: rest)).run journal =
      ((call.perform.run journal).1 :: (performAll rest).answer (call.perform.run journal).2,
        ((performAll rest).run (call.perform.run journal).2).2) := by
  rw [performAll, List.mapM_cons]
  rfl

theorem run_performAll_append (before after : List NoticeCall) (journal : Journal) :
    (performAll (before ++ after)).run journal =
      ((performAll before).answer journal ++
          (performAll after).answer ((performAll before).run journal).2,
        ((performAll after).run ((performAll before).run journal).2).2) := by
  induction before generalizing journal with
  | nil => rfl
  | cons call rest ih =>
      rw [List.cons_append, run_performAll_cons, Journaled.answer, Journaled.answer, ih,
        run_performAll_cons]
      rfl

theorem length_performAll (calls : List NoticeCall) (journal : Journal) :
    ((performAll calls).answer journal).length = calls.length := by
  induction calls generalizing journal with
  | nil => rfl
  | cons call rest ih =>
      rw [Journaled.answer, run_performAll_cons]
      exact congrArg Nat.succ (ih _)

theorem mem_seen_perform (call : NoticeCall) (journal : Journal) (key : Text) :
    key ∈ (call.perform.run journal).2.seen ↔
      (∃ component message, call = .notify component message ∧
        Journal.key component message = key) ∨ call ≠ .forget ∧ key ∈ journal.seen := by
  cases call with
  | forget =>
      have emptied : (NoticeCall.forget.perform.run journal).2.seen = [] := rfl
      simp [emptied]
  | notify component message =>
      have ran : ((NoticeCall.notify component message).perform.run journal).2 =
        ((Journal.notify component message).run journal).2 := rfl
      rw [ran]
      by_cases known : Journal.key component message ∈ journal.seen
      · rw [Journal.run_notify_of_seen known]
        simp only [notify.injEq, ne_eq, reduceCtorEq, not_false_eq_true, true_and]
        constructor
        · exact .inr
        · rintro (⟨_, _, ⟨rfl, rfl⟩, rfl⟩ | member)
          · exact known
          · exact member
      · rw [Journal.run_notify_of_new known]
        simp only [List.mem_cons, notify.injEq, ne_eq, reduceCtorEq, not_false_eq_true, true_and]
        constructor
        · rintro (rfl | member)
          · exact .inl ⟨component, message, ⟨rfl, rfl⟩, rfl⟩
          · exact .inr member
        · rintro (⟨_, _, ⟨rfl, rfl⟩, rfl⟩ | member)
          · exact .inl rfl
          · exact .inr member

/-- The keys seen after a run are those it remembers, and those from before it if nothing was
forgotten. -/
theorem mem_seen_performAll (calls : List NoticeCall) (journal : Journal) (key : Text) :
    key ∈ ((performAll calls).run journal).2.seen ↔
      Remembered calls key ∨ .forget ∉ calls ∧ key ∈ journal.seen := by
  induction calls generalizing journal with
  | nil =>
      have nothing : ¬Remembered [] key := by
        rintro ⟨before, component, message, after, whole, -⟩
        simp at whole
      have kept : ((performAll []).run journal).2 = journal := rfl
      simp [nothing, kept]
  | cons call rest ih =>
      rw [run_performAll_cons, ih, mem_seen_perform, remembered_cons, List.mem_cons, not_or,
        eq_comm (a := NoticeCall.forget), and_or_left, ← or_assoc, and_left_comm, and_assoc]

theorem notices_perform (call : NoticeCall) (journal : Journal) :
    (call.perform.run journal).2.notices =
      journal.notices ++ (given? (call, (call.perform.run journal).1)).toList := by
  cases call with
  | forget => exact (List.append_nil _).symm
  | notify component message =>
      have ran : (NoticeCall.notify component message).perform.run journal =
        (some ((Journal.notify component message).run journal).1,
          ((Journal.notify component message).run journal).2) := rfl
      rw [ran]
      by_cases known : Journal.key component message ∈ journal.seen
      · rw [Journal.run_notify_of_seen known]
        exact (List.append_nil _).symm
      · rw [Journal.run_notify_of_new known]
        exact Journal.notices_push_notice _ _ _ _

theorem notices_performAll (calls : List NoticeCall) (journal : Journal) :
    ((performAll calls).run journal).2.notices =
      journal.notices ++ (calls.zip ((performAll calls).answer journal)).filterMap given? := by
  induction calls generalizing journal with
  | nil => exact (List.append_nil _).symm
  | cons call rest ih =>
      rw [Journaled.answer, run_performAll_cons, List.zip_cons_cons, ih, notices_perform,
        List.append_assoc, List.filterMap_cons]
      congr 1
      cases given? (call, (call.perform.run journal).1) <;> rfl

theorem answer_performAll_append (before after : List NoticeCall) (component message : Text)
    (journal : Journal) :
    ((performAll (before ++ .notify component message :: after)).answer journal)[before.length]? =
      some (some ((Journal.notify component message).answer
        ((performAll before).run journal).2)) := by
  have length := length_performAll before journal
  rw [Journaled.answer, run_performAll_append, ← length, List.getElem?_append_right (Nat.le_refl _),
    Nat.sub_self, Journaled.answer, run_performAll_cons]
  rfl

theorem answer_notify_iff (component message : Text) (journal : Journal) :
    (Journal.notify component message).answer journal = true ↔
      Journal.key component message ∉ journal.seen := by
  by_cases known : Journal.key component message ∈ journal.seen
  · rw [Journaled.answer, Journal.run_notify_of_seen known]
    simp [known]
  · rw [Journaled.answer, Journal.run_notify_of_new known]
    simp [known]

/-- Over any run of calls, from the first one on, a notice is given exactly if no call since the
last forgetting had its key, and the journal has the notices whose calls were answered so. Keys
without a closing bracket in the component belong to one notice each, so what is not given was
asked for before, word for word. -/
theorem notify_once :
    (∀ (before after : List NoticeCall) (component message : Text),
      ∃ given : Bool, (given = true ↔ ¬Remembered before (Journal.key component message)) ∧
        ((performAll (before ++ .notify component message :: after)).answer
          .empty)[before.length]? = some (some given)) ∧
    (∀ calls : List NoticeCall, ((performAll calls).run .empty).2.notices =
      (calls.zip ((performAll calls).answer .empty)).filterMap given?) ∧
    (∀ component other message another : Text, ']' ∉ component → ']' ∉ other →
      (Journal.key component message = Journal.key other another ↔
        component = other ∧ message = another)) ∧
    ∀ (before after : List NoticeCall) (component message : Text),
      (∀ other another, .notify other another ∈ before → ']' ∉ other) → ']' ∉ component →
      ((performAll (before ++ .notify component message :: after)).answer
        .empty)[before.length]? = some (some false) →
      ∃ earlier between, before = earlier ++ .notify component message :: between ∧
        .forget ∉ between := by
  have answered (before : List NoticeCall) (component message : Text) :
      (Journal.notify component message).answer ((performAll before).run .empty).2 = true ↔
        ¬Remembered before (Journal.key component message) := by
    rw [answer_notify_iff, mem_seen_performAll]
    simp [Journal.empty]
  refine ⟨?_, ?_, fun _ _ _ _ => Journal.key_eq_key_iff, ?_⟩
  · intro before after component message
    exact ⟨_, answered before component message, answer_performAll_append before after _ _ _⟩
  · intro calls
    exact notices_performAll calls .empty
  · intro before after component message plain plainHere swallowed
    rw [answer_performAll_append] at swallowed
    have known : Remembered before (Journal.key component message) := by
      by_contra unknown
      rw [(answered before component message).mpr unknown] at swallowed
      cases swallowed
    obtain ⟨earlier, other, another, between, rfl, kept, same⟩ := known
    have plainOther : ']' ∉ other := plain other another (by simp)
    obtain ⟨rfl, rfl⟩ := (Journal.key_eq_key_iff plainOther plainHere).mp same
    exact ⟨earlier, between, rfl, kept⟩

/-- A notice is repeated with one of another component in between, and again when all are
forgotten. -/
theorem notify_once_repeated :
    (performAll [.notify "test" "a", .notify "other" "a", .notify "test" "a", .forget,
        .notify "test" "a"]).answer .empty =
      [some true, some true, some false, none, some true] ∧
    (Journal.key "test" "a" = Journal.key "other" "a" ↔
      "test".toList = "other".toList ∧ "a".toList = "a".toList) ∧
    ∃ earlier between : List NoticeCall,
      [NoticeCall.notify "test" "a", .notify "other" "a"] =
        earlier ++ .notify "test" "a" :: between ∧ .forget ∉ between := by
  refine ⟨by decide, notify_once.2.2.1 _ _ _ _ (by decide) (by decide), ?_⟩
  apply notify_once.2.2.2 [.notify "test" "a", .notify "other" "a"] [.forget, .notify "test" "a"]
  · intro other another member
    simp only [List.mem_cons, notify.injEq, List.not_mem_nil, or_false] at member
    rcases member with ⟨rfl, -⟩ | ⟨rfl, -⟩ <;> decide
  · decide
  · decide

example : Journal.key "a" "b] c" = Journal.key "a] b" "c" := by decide

end NoticeCall

end ClassLint
