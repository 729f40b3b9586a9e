import ClassLint.Regex.Compile
import Mathlib.Data.List.Forall2

/-! The order of flags. What a change of flags does depends on the setting of each flag and not on
where in the change it stands, so patterns that differ in the order of the letters of a change are
read, compiled and refused alike. -/

namespace ClassLint.Regex

def Flag.all : List Flag :=
  [.ignoreCase, .multiLine, .dotAll, .swapGreed, .unicode, .crlf, .verbose]

/-- The settings of a change in a fixed order. -/
def FlagChange.sorted (change : FlagChange) : FlagChange :=
  Flag.all.filterMap fun flag => (change.setting? flag).map (flag, ·)

theorem FlagChange.setting?_cons (item : Flag × Bool) (change : FlagChange) (flag : Flag) :
    FlagChange.setting? (item :: change) flag =
      if item.1 = flag then some item.2 else change.setting? flag := by
  rw [setting?, List.find?_cons]
  split_ifs with same
  · rw [decide_eq_true same]
    rfl
  · rw [decide_eq_false same]
    rfl

theorem FlagChange.setting?_filterMap (change : FlagChange) (flags : List Flag) (flag : Flag) :
    FlagChange.setting? (flags.filterMap fun flag => (change.setting? flag).map (flag, ·)) flag =
      if flag ∈ flags then change.setting? flag else none := by
  induction flags with
  | nil => rfl
  | cons first flags ih =>
      cases set : change.setting? first with
      | none =>
          rw [List.filterMap_cons_none (by rw [set]; rfl), ih]
          by_cases same : flag = first
          · rw [same, set, ite_self, ite_self]
          · simp [same]
      | some on =>
          rw [List.filterMap_cons_some (by rw [set]; rfl), setting?_cons, ih]
          by_cases same : flag = first
          · rw [if_pos same.symm, if_pos (by simp [same]), same, set]
          · simp [same, Ne.symm same]

theorem FlagChange.setting?_sorted (change : FlagChange) (flag : Flag) :
    change.sorted.setting? flag = change.setting? flag := by
  have known : flag ∈ Flag.all := by cases flag <;> decide
  rw [sorted, setting?_filterMap, if_pos known]

theorem FlagChange.sorted_eq_iff {change other : FlagChange} :
    change.sorted = other.sorted ↔ ∀ flag, change.setting? flag = other.setting? flag := by
  constructor
  · intro same flag
    rw [← setting?_sorted change, same, setting?_sorted]
  · intro same
    rw [sorted, sorted]
    simp only [same]

theorem Mode.apply_sorted (mode : Mode) (change : FlagChange) :
    mode.apply change.sorted = mode.apply change := by
  simp only [Mode.apply, FlagChange.setting?_sorted]

/-! ### Expressions -/

mutual

def Expr.sorted : Expr → Expr
  | .flags change => .flags change.sorted
  | .repetition body least most? lazy => .repetition body.sorted least most? lazy
  | .group number? change body => .group number? change.sorted body.sorted
  | .alternation branches => .alternation (Expr.sortedList branches)
  | .concatenation items => .concatenation (Expr.sortedList items)
  | .empty => .empty
  | .scalar s => .scalar s
  | .dot => .dot
  | .anchor a => .anchor a
  | .property query negated => .property query negated
  | .shorthand kind negated => .shorthand kind negated
  | .bracketed set negated => .bracketed set negated

def Expr.sortedList : List Expr → List Expr
  | [] => []
  | item :: items => item.sorted :: Expr.sortedList items

end

theorem Expr.sortedList_eq_map (items : List Expr) :
    Expr.sortedList items = items.map Expr.sorted := by
  induction items with
  | nil => rfl
  | cons item items ih => rw [sortedList, ih, List.map_cons]

theorem Expr.isRepeatable_sorted (e : Expr) : e.sorted.isRepeatable = e.isRepeatable := by
  cases e <;> simp [sorted, isRepeatable]

theorem Expr.sorted_ofItems (items : List Expr) :
    (Expr.ofItems items).sorted = Expr.ofItems (items.map Expr.sorted) := by
  rcases items with _ | ⟨item, _ | ⟨next, others⟩⟩
  · simp [ofItems, sorted]
  · rfl
  · simp [ofItems, sorted, sortedList_eq_map]

theorem Expr.sorted_ofBranches (branches : List Expr) :
    (Expr.ofBranches branches).sorted = Expr.ofBranches (branches.map Expr.sorted) := by
  rcases branches with _ | ⟨branch, _ | ⟨next, others⟩⟩
  · simp [ofBranches, sorted]
  · rfl
  · simp [ofBranches, sorted, sortedList_eq_map]

mutual

theorem Expr.depth_sorted (e : Expr) : e.sorted.depth = e.depth := by
  cases e with
  | repetition body => rw [sorted, depth, depth, body.depth_sorted]
  | group number? change body => rw [sorted, depth, depth, body.depth_sorted]
  | alternation branches => rw [sorted, depth, depth, Expr.depthOfList_sorted branches]
  | concatenation items => rw [sorted, depth, depth, Expr.depthOfList_sorted items]
  | _ => simp [sorted, depth]

theorem Expr.depthOfList_sorted (items : List Expr) :
    Expr.depthOfList (Expr.sortedList items) = Expr.depthOfList items := by
  cases items with
  | nil => rfl
  | cons item items =>
      rw [sortedList, depthOfList, depthOfList, item.depth_sorted, Expr.depthOfList_sorted items]

end

mutual

theorem Expr.program?_sorted (mode : Mode) (e : Expr) :
    e.sorted.program? mode = e.program? mode := by
  cases e with
  | flags change => rw [sorted, program?, program?, mode.apply_sorted]
  | repetition body => rw [sorted, program?, program?, body.program?_sorted mode]
  | group number? change body =>
      rw [sorted, program?, program?, mode.apply_sorted, body.program?_sorted _]
  | alternation branches => rw [sorted, program?, program?, Expr.programs?_sorted mode branches]
  | concatenation items => rw [sorted, program?, program?, Expr.programs?_sorted mode items]
  | _ => simp only [sorted]

theorem Expr.programs?_sorted (mode : Mode) (items : List Expr) :
    Expr.programs? mode (Expr.sortedList items) = Expr.programs? mode items := by
  cases items with
  | nil => rfl
  | cons item items =>
      rw [sortedList, programs?, programs?, item.program?_sorted mode]
      simp only [fun mode => Expr.programs?_sorted mode items]

end

/-! ### Reading -/

structure Scope.Alike (scope other : Scope) : Prop where
  number? : scope.number? = other.number?
  change : scope.change.sorted = other.change.sorted
  outerVerbose : scope.outerVerbose = other.outerVerbose
  branches : scope.branches.map Expr.sorted = other.branches.map Expr.sorted
  items : scope.items.map Expr.sorted = other.items.map Expr.sorted

structure ParseState.Alike (state other : ParseState) : Prop where
  scope : state.scope.Alike other.scope
  outer : List.Forall₂ Scope.Alike state.outer other.outer
  verbose : state.verbose = other.verbose
  captures : state.captures = other.captures
  names : state.names = other.names

namespace Scope.Alike

variable {scope other : Scope} (alike : scope.Alike other)
include alike

theorem push {item replaced : Expr} (same : item.sorted = replaced.sorted) :
    (scope.push item).Alike (other.push replaced) where
  number? := alike.number?
  change := alike.change
  outerVerbose := alike.outerVerbose
  branches := alike.branches
  items := congrArg₂ List.cons same alike.items

theorem branch : scope.branch.Alike other.branch where
  number? := alike.number?
  change := alike.change
  outerVerbose := alike.outerVerbose
  branches := by
    simp only [Scope.branch, List.map_cons, Expr.sorted_ofItems, List.map_reverse, alike.items,
      alike.branches]
  items := rfl

theorem body : scope.body.sorted = other.body.sorted := by
  rw [Scope.body, Scope.body, Expr.sorted_ofBranches, Expr.sorted_ofBranches, List.map_reverse,
    List.map_reverse, alike.branch.branches]

theorem repeatLast? {least : Nat} {most? : Option Nat} {lazy : Bool} {next : Scope}
    (repeated : scope.repeatLast? least most? lazy = some next) :
    ∃ after, other.repeatLast? least most? lazy = some after ∧ next.Alike after := by
  have items := alike.items
  unfold Scope.repeatLast? at repeated ⊢
  split at repeated
  · rename_i item rest listed
    split at repeated
    · rename_i repeatable
      cases repeated
      rw [listed] at items
      obtain ⟨last, others, replaced⟩ : ∃ last others, other.items = last :: others := by
        cases found : other.items with
        | nil => simp [found] at items
        | cons last others => exact ⟨last, others, rfl⟩
      rw [replaced, List.map_cons, List.map_cons, List.cons.injEq] at items
      rw [← Expr.isRepeatable_sorted, items.1, Expr.isRepeatable_sorted] at repeatable
      simp only [replaced, repeatable, if_true]
      refine ⟨_, rfl, ⟨alike.number?, alike.change, alike.outerVerbose, alike.branches, ?_⟩⟩
      simp only [List.map_cons, Expr.sorted, items]
    · cases repeated
  · cases repeated

end Scope.Alike

namespace ParseState.Alike

variable {state other : ParseState} (alike : state.Alike other)
include alike

theorem push {item replaced : Expr} (same : item.sorted = replaced.sorted) :
    (state.push item).Alike (other.push replaced) :=
  ⟨alike.scope.push same, alike.outer, alike.verbose, alike.captures, alike.names⟩

theorem nest (number? : Option Nat) (change : FlagChange) :
    (state.nest number? change).Alike (other.nest number? change) where
  scope := ⟨rfl, rfl, alike.verbose, rfl, rfl⟩
  outer := .cons alike.scope alike.outer
  verbose := by simp only [ParseState.nest, alike.verbose]
  captures := alike.captures
  names := alike.names

theorem enter? {opening : Opening} {next : ParseState}
    (entered : state.enter? opening = some next) :
    ∃ after, other.enter? opening = some after ∧ next.Alike after := by
  cases opening with
  | flags change =>
      cases entered
      refine ⟨_, rfl, ⟨(alike.push rfl).scope, alike.outer, ?_, alike.captures, alike.names⟩⟩
      simp only [alike.verbose]
  | group change =>
      cases entered
      exact ⟨_, rfl, alike.nest none change⟩
  | capture name? =>
      simp only [ParseState.enter?] at entered ⊢
      rw [← alike.names, ← alike.captures]
      split at entered
      · cases entered
      · rename_i fresh
        cases entered
        have nested := alike.nest (some (state.captures + 1)) []
        rw [if_neg fresh]
        exact ⟨_, rfl, ⟨nested.scope, nested.outer, nested.verbose, rfl, rfl⟩⟩

theorem closeGroup? {next : ParseState} (closed : state.closeGroup? = some next) :
    ∃ after, other.closeGroup? = some after ∧ next.Alike after := by
  have outer := alike.outer
  unfold ParseState.closeGroup? at closed ⊢
  split at closed
  · cases closed
  · rename_i scope rest listed
    cases closed
    rw [listed] at outer
    obtain ⟨found, others, same, more, replaced⟩ := List.forall₂_cons_left_iff.mp outer
    rw [replaced]
    refine ⟨_, rfl, ⟨same.push ?_, more, alike.scope.outerVerbose, alike.captures, alike.names⟩⟩
    simp only [Expr.sorted, alike.scope.number?, alike.scope.change, alike.scope.body]

theorem repeatLast? {least : Nat} {most? : Option Nat} {rest after : Text} {next : ParseState}
    (repeated : state.repeatLast? least most? rest = some (next, after)) :
    ∃ next', other.repeatLast? least most? rest = some (next', after) ∧ next.Alike next' := by
  simp only [ParseState.repeatLast?] at repeated ⊢
  obtain ⟨scope, found, same⟩ := Option.map_eq_some_iff.mp repeated
  cases same
  obtain ⟨replaced, again, alikeScope⟩ := alike.scope.repeatLast? found
  rw [again]
  exact ⟨_, rfl, ⟨alikeScope, alike.outer, alike.verbose, alike.captures, alike.names⟩⟩

theorem finish? {e : Expr} (finished : state.finish? = some e) :
    ∃ e', other.finish? = some e' ∧ e.sorted = e'.sorted := by
  unfold ParseState.finish? at finished ⊢
  have outer := alike.outer.length_eq
  split at finished
  · rename_i closed
    cases finished
    rw [List.isEmpty_iff_length_eq_zero, outer, ← List.isEmpty_iff_length_eq_zero] at closed
    rw [if_pos closed]
    exact ⟨_, rfl, alike.scope.body⟩
  · cases finished

theorem readStep {c : Char} {rest after : Text} {next : ParseState}
    (read : Regex.readStep state c rest = some (next, after)) :
    ∃ next', Regex.readStep other c rest = some (next', after) ∧ next.Alike next' := by
  unfold Regex.readStep at read ⊢
  rw [← alike.verbose]
  split at read
  · obtain ⟨⟨opening, left⟩, opened, entering⟩ := Option.bind_eq_some_iff.mp read
    obtain ⟨entered, found, same⟩ := Option.bind_eq_some_iff.mp entering
    cases same
    obtain ⟨next', again, alikeNext⟩ := alike.enter? found
    exact ⟨next', Option.bind_eq_some_iff.mpr ⟨_, opened, Option.bind_eq_some_iff.mpr
      ⟨next', again, rfl⟩⟩, alikeNext⟩
  · obtain ⟨closed, found, same⟩ := Option.bind_eq_some_iff.mp read
    cases same
    obtain ⟨next', again, alikeNext⟩ := alike.closeGroup? found
    exact ⟨next', Option.bind_eq_some_iff.mpr ⟨next', again, rfl⟩, alikeNext⟩
  · cases read
    exact ⟨_, rfl, ⟨alike.scope.branch, alike.outer, rfl, alike.captures, alike.names⟩⟩
  · obtain ⟨⟨item, left⟩, found, same⟩ := Option.bind_eq_some_iff.mp read
    cases same
    exact ⟨_, Option.bind_eq_some_iff.mpr ⟨_, found, rfl⟩, alike.push rfl⟩
  · exact alike.repeatLast? read
  · exact alike.repeatLast? read
  · exact alike.repeatLast? read
  · obtain ⟨⟨least, most?, left⟩, found, repeated⟩ := Option.bind_eq_some_iff.mp read
    obtain ⟨next', again, alikeNext⟩ := alike.repeatLast? repeated
    exact ⟨next', Option.bind_eq_some_iff.mpr ⟨_, found, again⟩, alikeNext⟩
  · obtain ⟨⟨item, left⟩, found, same⟩ := Option.bind_eq_some_iff.mp read
    cases same
    exact ⟨_, Option.bind_eq_some_iff.mpr ⟨_, found, rfl⟩, alike.push rfl⟩
  all_goals
    cases read
    exact ⟨_, rfl, alike.push rfl⟩

omit alike in
theorem readExpr {fuel : Nat} {t : Text} {e : Expr} (alike : state.Alike other)
    (read : Regex.readExpr fuel state t = some e) :
    ∃ e', Regex.readExpr fuel other t = some e' ∧ e.sorted = e'.sorted := by
  induction fuel generalizing state other t with
  | zero => cases read
  | succ fuel ih =>
      rw [Regex.readExpr, ← alike.verbose]
      rw [Regex.readExpr] at read
      split at read
      · exact alike.finish? read
      · obtain ⟨⟨next, left⟩, found, later⟩ := Option.bind_eq_some_iff.mp read
        obtain ⟨next', again, alikeNext⟩ := alike.readStep found
        obtain ⟨e', rest, same⟩ := ih alikeNext later
        exact ⟨e', Option.bind_eq_some_iff.mpr ⟨_, again, rest⟩, same⟩

end ParseState.Alike

/-! ### A change at the start of a pattern -/

/-- Letters that set flags, none of them twice. -/
structure FlagLetters (letters : Text) : Prop where
  known : ∀ c ∈ letters, ∃ flag, Flag.ofLetter? c = some flag
  nodup : letters.Nodup

def FlagChange.ofLetters (letters : Text) : FlagChange :=
  (letters.filterMap Flag.ofLetter?).map (·, true)

theorem FlagChange.setting?_map_true (flags : List Flag) (flag : Flag) :
    FlagChange.setting? (flags.map (·, true)) flag =
      if flag ∈ flags then some true else none := by
  induction flags with
  | nil => rfl
  | cons first flags ih =>
      rw [List.map_cons, setting?_cons, ih]
      by_cases same : first = flag
      · simp [same]
      · simp [same, Ne.symm same]

theorem Flag.ofLetter?_inj {c d : Char} {flag : Flag} (first : Flag.ofLetter? c = some flag)
    (second : Flag.ofLetter? d = some flag) : c = d := by
  unfold Flag.ofLetter? at first second
  split at first <;> cases first <;> split at second <;> simp_all

theorem readFlags_letter {c : Char} {flag : Flag} (letter : Flag.ofLetter? c = some flag)
    {change : FlagChange} (fresh : change.setting? flag = none) (dangling : Bool) (rest : Text) :
    readFlags false dangling change (c :: rest) =
      readFlags false false ((flag, true) :: change) rest := by
  rw [readFlags.eq_def]
  split
  case h_5 found =>
    cases found
    simp [letter, fresh]
  all_goals
    rename_i found
    cases found
    try cases letter

theorem readFlags_letters {letters : Text} (flags : FlagLetters letters) {change : FlagChange}
    (fresh : ∀ c ∈ letters, ∀ flag ∈ Flag.ofLetter? c, change.setting? flag = none)
    (rest : Text) :
    readFlags false false change (letters ++ ')' :: rest) =
      some (change.reverse ++ FlagChange.ofLetters letters, false, rest) := by
  induction letters generalizing change with
  | nil => simp [readFlags, FlagChange.ofLetters]
  | cons c letters ih =>
      obtain ⟨flag, letter⟩ := flags.known c List.mem_cons_self
      obtain ⟨once, nodup⟩ := List.nodup_cons.mp flags.nodup
      have later : FlagLetters letters :=
        ⟨fun d member => flags.known d (List.mem_cons_of_mem c member), nodup⟩
      rw [List.cons_append, readFlags_letter letter (fresh c List.mem_cons_self flag letter),
        ih later ?_]
      · simp [FlagChange.ofLetters, List.filterMap_cons_some letter]
      · intro d member other found
        rw [FlagChange.setting?_cons, if_neg ?_, fresh d (List.mem_cons_of_mem c member) _ found]
        rintro rfl
        exact once (Flag.ofLetter?_inj letter found ▸ member)

theorem readOpening_letters {letters : Text} (flags : FlagLetters letters) (nonempty : letters ≠ [])
    (rest : Text) :
    readOpening ('?' :: (letters ++ ')' :: rest)) =
      some (.flags (FlagChange.ofLetters letters), rest) := by
  have read : readFlags false false [] (letters ++ ')' :: rest) =
      some (FlagChange.ofLetters letters, false, rest) :=
    readFlags_letters flags (fun _ _ _ _ => rfl) rest
  obtain ⟨c, others, rfl⟩ := List.exists_cons_of_ne_nil nonempty
  obtain ⟨flag, letter⟩ := flags.known c List.mem_cons_self
  have set : FlagChange.ofLetters (c :: others) ≠ [] := by
    simp [FlagChange.ofLetters, List.filterMap_cons_some letter]
  rw [List.cons_append] at read ⊢
  rw [readOpening.eq_def]
  split
  case h_7 found =>
    cases found
    rw [read]
    simp [set]
  case h_8 other =>
    exact absurd rfl (other _)
  all_goals
    rename_i found
    obtain rfl := (List.cons.inj (List.cons.inj found).2).1
    cases letter

def ParseState.afterFlags (letters : Text) : ParseState :=
  { ParseState.start.push (.flags (FlagChange.ofLetters letters)) with
    verbose := ((FlagChange.ofLetters letters).setting? .verbose).getD false }

def withFlags (letters body : Text) : Text := "(?" ++ letters ++ ")" ++ body

theorem readExpr_withFlags {letters : Text} (flags : FlagLetters letters) (nonempty : letters ≠ [])
    (fuel : Nat) (body : Text) :
    readExpr (fuel + 1) .start (withFlags letters body) =
      readExpr fuel (.afterFlags letters) body := by
  have text : withFlags letters body = '(' :: '?' :: (letters ++ ')' :: body) := by
    simp [withFlags]
  have opened : readStep .start '(' ('?' :: (letters ++ ')' :: body)) =
      some (.afterFlags letters, body) := by
    simp only [readStep]
    rw [show ParseState.start.verbose = false from rfl, skipIf, if_neg Bool.false_ne_true,
      readOpening_letters flags nonempty]
    rfl
  rw [text, readExpr]
  rw [show ParseState.start.verbose = false from rfl, skipIf, if_neg Bool.false_ne_true]
  simp only [opened]
  rfl

theorem alike_afterFlags {letters others : Text} (perm : letters.Perm others) :
    (ParseState.afterFlags letters).Alike (.afterFlags others) := by
  have settings (flag : Flag) : (FlagChange.ofLetters letters).setting? flag =
      (FlagChange.ofLetters others).setting? flag := by
    rw [FlagChange.ofLetters, FlagChange.ofLetters, FlagChange.setting?_map_true,
      FlagChange.setting?_map_true]
    simp only [(perm.filterMap Flag.ofLetter?).mem_iff]
  have scope : ParseState.start.scope.Alike ParseState.start.scope := ⟨rfl, rfl, rfl, rfl, rfl⟩
  refine ⟨scope.push ?_, .nil, ?_, rfl, rfl⟩
  · simp only [Expr.sorted, FlagChange.sorted_eq_iff.mpr settings]
  · simp only [ParseState.afterFlags, settings]

theorem FlagLetters.perm {letters others : Text} (flags : FlagLetters letters)
    (perm : letters.Perm others) : FlagLetters others :=
  ⟨fun c member => flags.known c (perm.mem_iff.mpr member), perm.nodup_iff.mp flags.nodup⟩

theorem exists_parse?_withFlags {letters others : Text} (flags : FlagLetters letters)
    (nonempty : letters ≠ []) (perm : letters.Perm others) {body : Text} {e : Expr}
    (parsed : parse? (withFlags letters body) = some e) :
    ∃ e', parse? (withFlags others body) = some e' ∧ e.sorted = e'.sorted := by
  have length : (withFlags others body).length = (withFlags letters body).length := by
    simp [withFlags, perm.length_eq]
  have filled : others ≠ [] := fun empty => nonempty (List.perm_nil.mp (empty ▸ perm))
  obtain ⟨found, read, shallow⟩ := Option.bind_eq_some_iff.mp parsed
  rw [readExpr_withFlags flags nonempty] at read
  obtain ⟨e', again, same⟩ := (alike_afterFlags perm).readExpr read
  split at shallow
  · rename_i bound
    cases shallow
    rw [← Expr.depth_sorted, same, Expr.depth_sorted] at bound
    refine ⟨e', Option.bind_eq_some_iff.mpr ⟨e', ?_, if_pos bound⟩, same⟩
    rw [length, readExpr_withFlags (flags.perm perm) filled, again]
  · cases shallow

theorem exists_compile?_withFlags {letters others : Text} (flags : FlagLetters letters)
    (nonempty : letters ≠ []) (perm : letters.Perm others) {body : Text} {program : Program}
    (compiled : compile? (withFlags letters body) = some program) :
    compile? (withFlags others body) = some program := by
  obtain ⟨e, parsed, later⟩ := Option.bind_eq_some_iff.mp compiled
  obtain ⟨e', again, same⟩ := exists_parse?_withFlags flags nonempty perm parsed
  rw [← Expr.program?_sorted, same, Expr.program?_sorted] at later
  exact Option.bind_eq_some_iff.mpr ⟨e', again, later⟩

/-- The order of the flags that a pattern starts with counts for nothing. -/
theorem compile?_withFlags_perm {letters others : Text} (flags : FlagLetters letters)
    (nonempty : letters ≠ []) (perm : letters.Perm others) (body : Text) :
    compile? (withFlags letters body) = compile? (withFlags others body) := by
  have filled : others ≠ [] := fun empty => nonempty (List.perm_nil.mp (empty ▸ perm))
  apply Option.ext
  intro program
  exact ⟨exists_compile?_withFlags flags nonempty perm,
    exists_compile?_withFlags (flags.perm perm) filled perm.symm⟩

end ClassLint.Regex
