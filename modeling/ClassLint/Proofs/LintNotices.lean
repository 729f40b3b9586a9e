import ClassLint.Proofs.Linting
import ClassLint.Proofs.Notices

/-! The notices of a lint run. They come from resolving the style rules that a walk reaches, so they
depend on the stylesheet alone; every rule walks through the same ones, and only the first walk has
anything to say that was not said before. -/

namespace ClassLint

open Journaled Walk

/-! ### Announcements -/

/-- What a journal holds of notices: the keys seen, and the notices given. -/
def Journal.board (journal : Journal) : List Text × List (Text × Text) :=
  (journal.seen, journal.notices)

def nestingComponent : Text := "flatten"

def nestingKey (message : Text) : Text := Journal.key nestingComponent message

def announce (board : List Text × List (Text × Text)) (message : Text) :
    List Text × List (Text × Text) :=
  if nestingKey message ∈ board.1 then board
  else (nestingKey message :: board.1, board.2 ++ [(nestingComponent, message)])

def announceAll (messages : List Text) (board : List Text × List (Text × Text)) :
    List Text × List (Text × Text) := messages.foldl announce board

theorem announceAll_append (messages others : List Text) (board : List Text × List (Text × Text)) :
    announceAll (messages ++ others) board = announceAll others (announceAll messages board) :=
  List.foldl_append

theorem nestingKey_inj {message other : Text} :
    nestingKey message = nestingKey other ↔ message = other := by
  have plain : ']' ∉ nestingComponent := by decide
  rw [nestingKey, nestingKey, Journal.key_eq_key_iff plain plain]
  simp

theorem mem_announce (board : List Text × List (Text × Text)) (message key : Text) :
    key ∈ (announce board message).1 ↔ key ∈ board.1 ∨ nestingKey message = key := by
  rw [announce]
  split
  · rename_i known
    constructor
    · exact .inl
    · rintro (member | rfl)
      · exact member
      · exact known
  · rw [List.mem_cons, or_comm, eq_comm]

theorem mem_announceAll (messages : List Text) (board : List Text × List (Text × Text))
    (key : Text) :
    key ∈ (announceAll messages board).1 ↔
      key ∈ board.1 ∨ ∃ message ∈ messages, nestingKey message = key := by
  induction messages generalizing board with
  | nil => simp [announceAll]
  | cons message rest ih =>
      rw [announceAll, List.foldl_cons, ← announceAll, ih, mem_announce, or_assoc]
      simp

theorem announceAll_of_seen {messages : List Text} {board : List Text × List (Text × Text)}
    (known : ∀ message ∈ messages, nestingKey message ∈ board.1) :
    announceAll messages board = board := by
  induction messages with
  | nil => rfl
  | cons message rest ih =>
      obtain ⟨first, others⟩ := List.forall_mem_cons.mp known
      rw [announceAll, List.foldl_cons, announce, if_pos first]
      exact ih others

theorem announceAll_again {messages others : List Text} (again : others ⊆ messages)
    (board : List Text × List (Text × Text)) :
    announceAll others (announceAll messages board) = announceAll messages board := by
  apply announceAll_of_seen
  intro message member
  exact (mem_announceAll messages board _).mpr (.inr ⟨message, again member, rfl⟩)

theorem eraseDups_filter (p : Text → Bool) (list : List Text) :
    (list.filter p).eraseDups = list.eraseDups.filter p := by
  cases list with
  | nil => rfl
  | cons first rest =>
      have later := eraseDups_filter p (rest.filter fun other => !other == first)
      rw [List.eraseDups_cons, List.filter_cons, List.filter_cons]
      split
      · rw [List.eraseDups_cons, ← later, List.filter_filter, List.filter_filter]
        simp only [Bool.and_comm]
      · rename_i out
        rw [← later, List.filter_filter]
        congr 1
        apply List.filter_congr
        intro other _
        by_cases same : other = first
        · simp [same, out]
        · simp [same]
termination_by list.length
decreasing_by exact Nat.lt_succ_of_le (List.length_filter_le _ _)

theorem nodup_eraseDups (list : List Text) : list.eraseDups.Nodup := by
  cases list with
  | nil => simp
  | cons first rest =>
      rw [List.eraseDups_cons, List.nodup_cons, List.mem_eraseDups]
      exact ⟨by simp, nodup_eraseDups (rest.filter fun other => !other == first)⟩
termination_by list.length
decreasing_by exact Nat.lt_succ_of_le (List.length_filter_le _ _)

theorem announceAll_notices (messages : List Text) (board : List Text × List (Text × Text)) :
    (announceAll messages board).2 = board.2 ++
      (messages.eraseDups.filter fun message => nestingKey message ∉ board.1).map
        (nestingComponent, ·) := by
  induction messages generalizing board with
  | nil => simp [announceAll]
  | cons message rest ih =>
      rw [announceAll, List.foldl_cons, ← announceAll, ih, List.eraseDups_cons, eraseDups_filter,
        List.filter_cons, List.filter_filter, announce]
      by_cases known : nestingKey message ∈ board.1
      · simp only [known, if_true, not_true_eq_false, decide_false, Bool.false_eq_true, if_false]
        congr 2
        apply List.filter_congr
        intro other _
        by_cases same : other = message
        · simp [same, known]
        · simp [same]
      · simp only [known, if_false, not_false_eq_true, decide_true, if_true, List.map_cons,
          List.append_assoc, List.cons_append, List.nil_append]
        congr 3
        apply List.filter_congr
        intro other _
        by_cases same : other = message <;> simp [nestingKey_inj, same]

/-- From every journal a computation leaves those messages announced, and nothing else of notices
changed. -/
def Announces {α : Type} (action : Journaled α) (messages : List Text) : Prop :=
  ∀ journal, (action.run journal).2.board = announceAll messages journal.board

section Rules

variable {α β ε σ : Type} {messages others : List Text}

theorem Announces.again {action : Journaled α} {next : Journaled β}
    (first : Announces action messages) (second : Announces next messages) (journal : Journal) :
    (next.run (action.run journal).2).2.board = (action.run journal).2.board := by
  rw [second, first, announceAll_again (List.Subset.refl _)]

theorem announces_pure (value : α) : Announces (pure value) [] := fun _ => rfl

theorem announces_bind {action : Journaled α} {next : α → Journaled β} {value : α}
    (settled : Answers action value) (first : Announces action messages)
    (second : Announces (next value) others) :
    Announces (action >>= next) (messages ++ others) := by
  intro journal
  have answered : (action.run journal).1 = value := settled journal
  change ((next (action.run journal).1).run (action.run journal).2).2.board = _
  rw [answered, second, first, announceAll_append]

theorem announces_bind_again {action : Journaled α} {next : α → Journaled β}
    (first : Announces action messages)
    (second : ∀ value, ∃ others, others ⊆ messages ∧ Announces (next value) others) :
    Announces (action >>= next) messages := by
  intro journal
  obtain ⟨others, again, announced⟩ := second (action.run journal).1
  change ((next (action.run journal).1).run (action.run journal).2).2.board = _
  rw [announced, first, announceAll_again again]

theorem announces_before {action : Journaled α} {next : α → Journaled β}
    (first : Announces action messages) (second : ∀ value, Announces (next value) []) :
    Announces (action >>= next) messages :=
  announces_bind_again first fun value => ⟨[], List.nil_subset _, second value⟩

theorem announces_record {entry : Entry}
    (quiet : ∀ component message, entry ≠ .notice component message) :
    Announces (Journal.record entry) [] := by
  intro journal
  change (journal.seen, Journal.notices ⟨_, journal.entries.push entry⟩) = journal.board
  cases entry with
  | notice component message => exact absurd rfl (quiet component message)
  | activated | visited | checked => simp [Journal.notices, Journal.board]

theorem announces_notify (message : Text) :
    Announces (Journal.notify nestingComponent message) [message] := by
  intro journal
  rw [announceAll, List.foldl_cons, List.foldl_nil, announce]
  split
  · rename_i known
    rw [Journal.run_notify_of_seen known]
  · rename_i new
    rw [Journal.run_notify_of_new new, Journal.board, Journal.notices_push_notice]
    rfl

theorem announces_run_before {action : ExceptT ε Journaled α} {next : α → ExceptT ε Journaled β}
    (first : Announces action.run messages) (second : ∀ value, Announces (next value).run []) :
    Announces (action >>= next).run messages := by
  rw [ExceptT.run_bind]
  apply announces_before first
  intro outcome
  cases outcome with
  | error error => exact announces_pure _
  | ok value => exact second value

theorem announces_walk_before {action : Walk σ ε α} {next : α → Walk σ ε β} {state : σ}
    (first : Announces (action.run.run state) messages)
    (second : ∀ value state, Announces ((next value).run.run state) []) :
    Announces ((action >>= next).run.run state) messages := by
  rw [ExceptT.run_bind, StateT.run_bind]
  apply announces_before first
  rintro ⟨outcome, final⟩
  cases outcome with
  | error error => exact announces_pure _
  | ok value => exact second value final

theorem announces_lift {action : Journaled α} (announced : Announces action messages)
    (state : σ) : Announces ((liftM action : Walk σ ε α).run.run state) messages := announced

end Rules

/-! ### What is met on a walk -/

/-- The text that comes to stand at the top when a selector is resolved: each ancestor that has
selectors takes the place of a text with nesting marks and goes in front of one without. -/
def outermost? (selector : Text) : Lineage → Option Text
  | [] => some selector
  | [] :: _ => none
  | (parent :: _) :: outer =>
    outermost? (if hasNesting selector then parent else joinDescendant parent selector) outer

def nestingMessage (selector : Text) : Text :=
  "nesting selector '&' outside of a rule: " ++ cited selector

/-- The notice that resolving a selector calls for: one if the text at the top has nesting marks. -/
def nestingMessage? (selector : Text) (lineage : Lineage) : Option Text :=
  ((outermost? selector lineage).filter hasNesting).map nestingMessage

theorem announces_resolveOutermost (selector : Text) :
    Announces (resolveOutermost selector) (nestingMessage? selector []).toList := by
  unfold resolveOutermost
  cases nested : hasNesting selector with
  | true =>
      have message : nestingMessage? selector [] = some (nestingMessage selector) := by
        simp [nestingMessage?, outermost?, nested]
      rw [message]
      exact announces_before (announces_notify _) fun _ => announces_pure _
  | false =>
      have silent : nestingMessage? selector [] = none := by
        simp [nestingMessage?, outermost?, nested]
      rw [silent]
      exact announces_pure _

theorem announces_resolveFirstFrom (selector : Text) (lineage : Lineage) :
    Announces (resolveFirstFrom (hasNesting selector) selector lineage)
      (nestingMessage? selector lineage).toList := by
  induction lineage generalizing selector with
  | nil => exact announces_before (announces_resolveOutermost selector) fun _ => announces_pure _
  | cons parents outer ih =>
      cases parents with
      | nil => exact announces_pure none
      | cons parent others =>
          rw [resolveFirstFrom, nestingMessage?, outermost?]
          cases nested : hasNesting selector with
          | true => exact announces_before (ih parent) fun _ => announces_pure _
          | false =>
              -- The flag handed on is that of the parent, which is that of the joined text.
              rw [← hasNesting_joinDescendant_of_plain parent selector nested]
              exact ih (joinDescendant parent selector)

/-- The notice that a style rule calls for where it stands. -/
def noticeAt? (placement : Placement) : Option Text :=
  nestingMessage? placement.1.selector (.ofAncestors placement.2)

theorem announces_flatten (placement : Placement) :
    Announces (flatten placement.1 (.ofAncestors placement.2)) (noticeAt? placement).toList :=
  announces_before (announces_resolveFirstFrom _ _) fun _ => announces_pure _

/-- The style rules that a walk reaches: all up to the first that cannot be read, and that one. -/
def reached : List Placement → List Placement
  | [] => []
  | placement :: rest =>
    match unreadable? placement with
    | some _ => [placement]
    | none => placement :: reached rest

def noticesOn (placements : List Placement) : List Text := (reached placements).filterMap noticeAt?

theorem noticesOn_cons (placement : Placement) (rest : List Placement) :
    noticesOn (placement :: rest) = (noticeAt? placement).toList ++
      match unreadable? placement with
      | some _ => []
      | none => noticesOn rest := by
  rw [noticesOn, reached]
  cases unreadable? placement <;> cases found : noticeAt? placement <;> simp [found, noticesOn]

theorem announces_visitSelectors (rule : Rule) (style : StyleRule) (selectors : List Selector)
    (findings : Findings) :
    Announces ((visitSelectors rule.visitor style selectors).run.run findings) [] := by
  induction selectors generalizing findings with
  | nil => exact announces_pure _
  | cons selector rest ih =>
      rw [visitSelectors]
      cases triggered : rule.triggeredBy selector with
      | true =>
          rw [visitor_of_trigger rule style selector triggered]
          exact announces_before (announces_record (by simp)) fun _ => announces_pure _
      | false =>
          rw [visitor_of_no_trigger rule style selector triggered]
          exact announces_before (announces_record (by simp)) fun _ => ih _

theorem announces_visitPlacement (rule : Rule) (placement : Placement) (findings : Findings) :
    Announces ((visitPlacement id rule.visitor placement).run.run findings)
      (noticeAt? placement).toList := by
  apply announces_walk_before (announces_lift (announces_flatten placement) findings)
  intro read state
  cases read with
  | error error => exact announces_pure _
  | ok selectors => exact announces_visitSelectors rule placement.1 selectors state

theorem announces_forM (rule : Rule) (placements : List Placement) (findings : Findings) :
    Announces ((forM placements (visitPlacement id rule.visitor)).run.run findings)
      (noticesOn placements) := by
  induction placements generalizing findings with
  | nil => exact announces_pure _
  | cons placement rest ih =>
      have here := announces_visitPlacement rule placement findings
      rw [List.forM_cons, noticesOn_cons, ExceptT.run_bind, StateT.run_bind]
      cases read : standaloneSelectors placement with
      | error error =>
          have ended := visitPlacement_ends_of_error id rule.visitor placement findings error read
          simp only [unreadable?, read]
          exact announces_bind ended here (announces_pure _)
      | ok selectors =>
          obtain ⟨final, ended, -⟩ := visitPlacement_ends rule placement findings selectors read
          simp only [unreadable?, read]
          exact announces_bind ended here (ih final)

theorem announces_collect (rule : Rule) (sheet : Sheet) :
    Announces (collect rule.visitor sheet).run (noticesOn sheet.placements) := by
  have walked := announces_forM rule sheet.placements .start
  rw [← walk_eq_forM] at walked
  have lifted : Announces (liftM ((walk id rule.visitor sheet).run.run Findings.start :
    Journaled _) : Checked _).run (noticesOn sheet.placements) := walked
  apply announces_run_before lifted
  rintro ⟨outcome, findings⟩
  cases outcome with
  | error error => exact announces_pure _
  | ok value => exact announces_pure _

/-- Every rule announces what its walk meets, and all walks meet the same. -/
theorem announces_check (rule : Rule) (sheet : Sheet) :
    Announces (rule.check sheet).run (noticesOn sheet.placements) := by
  cases rule with
  | classFormat options =>
      apply announces_run_before (announces_collect (.classFormat options) sheet)
      intro findings
      exact announces_before (announces_record (by simp)) fun _ => announces_pure _
  | noDescendantCombinator =>
      apply announces_run_before (announces_collect .noDescendantCombinator sheet)
      intro findings
      exact announces_before (announces_record (by simp)) fun _ => announces_pure _

theorem announces_checkAll (sheet : Sheet) (rules : List Rule) :
    Announces (Linter.checkAll sheet rules).run
      (if rules.isEmpty then [] else noticesOn sheet.placements) := by
  induction rules with
  | nil => exact announces_pure _
  | cons rule rest ih =>
      rw [Linter.checkAll, ExceptT.run_bind]
      apply announces_bind_again (announces_check rule sheet)
      intro outcome
      cases outcome with
      | error error => exact ⟨[], List.nil_subset _, announces_pure _⟩
      | ok diagnostics =>
          refine ⟨_, ?_, announces_run_before ih fun _ => announces_pure _⟩
          split
          · exact List.nil_subset _
          · exact List.Subset.refl _

/-- The notices of a stylesheet, in the order a walk first meets them. -/
def Sheet.nestingNotices (sheet : Sheet) : List Text := (noticesOn sheet.placements).eraseDups

/-- A lint run answers the same whatever was announced before. It adds the notices of the
stylesheet, if there is a rule at all and whichever it is: those that are new are given, each once
and in the order a walk meets them. A second rule or a second run has nothing to add. -/
theorem lint_notices (sheet : Sheet) (linter : Linter) (journal : Journal) :
    let messages := if linter.rules.isEmpty then [] else sheet.nestingNotices
    let later := ((linter.lint sheet).run.run journal).2
    (∀ other : Journal,
      (linter.lint sheet).run.answer other = (linter.lint sheet).run.answer journal) ∧
    (∀ key, key ∈ later.seen ↔ key ∈ journal.seen ∨
      ∃ message ∈ messages, Journal.key "flatten" message = key) ∧
    later.notices = journal.notices ++ (messages.filter fun message =>
      Journal.key "flatten" message ∉ journal.seen).map ("flatten".toList, ·) ∧
    messages.Nodup ∧
    (∀ first second : Rule,
      let checked := ((first.check sheet).run.run journal).2
      let again := ((second.check sheet).run.run checked).2
      again.seen = checked.seen ∧ again.notices = checked.notices) ∧
    let again := ((linter.lint sheet).run.run later).2
    again.seen = later.seen ∧ again.notices = later.notices := by
  intro messages later
  let met := if linter.rules.isEmpty then [] else noticesOn sheet.placements
  have announced : Announces (linter.lint sheet).run met := announces_checkAll sheet linter.rules
  have same : messages = met.eraseDups := by
    simp only [messages, met, Sheet.nestingNotices]
    split <;> rfl
  have seen : later.seen = (announceAll met journal.board).1 :=
    congrArg Prod.fst (announced journal)
  have notices : later.notices = (announceAll met journal.board).2 :=
    congrArg Prod.snd (announced journal)
  refine ⟨?_, ?_, ?_, ?_, ?_, ?_⟩
  · intro other
    rw [answers_lint linter sheet other, answers_lint linter sheet journal]
  · intro key
    rw [seen, mem_announceAll, same]
    simp only [List.mem_eraseDups]
    rfl
  · rw [notices, announceAll_notices, same]
    rfl
  · rw [same]
    exact nodup_eraseDups met
  · intro first second checked again
    have twice := (announces_check first sheet).again (announces_check second sheet) journal
    exact Prod.mk.inj twice
  · exact Prod.mk.inj (announced.again announced journal)

/-- The second style rule is resolved to the text of the first, and the last is not reached. -/
example :
    Sheet.nestingNotices [.rule ⟨"& > a", .start⟩ [.rule ⟨"& b", .start⟩ []],
      .rule ⟨"&c", .start⟩ [], .rule ⟨"#", .start⟩ [], .rule ⟨"&d", .start⟩ []] =
      [nestingMessage "& > a", nestingMessage "&c"] := by
  decide +kernel

end ClassLint
