import ClassLint.Pattern
import ClassLint.Proofs.FlagOrder
import Mathlib.Data.List.Nodup
import Mathlib.Data.List.TakeWhile

/-! Custom patterns. A text between slashes is a literal with flags behind its last slash, and every
other text is the pattern itself; the flags become a group in front of the pattern, where neither
their order nor a repetition counts. -/

namespace ClassLint

open Regex

def literalFlags : Text := "imsxu"

def flagFault (pattern : Text) (flag : Char) : PatternFault :=
  if flag = 'g' ∨ flag = 'y' then .repeatMatchFlag pattern flag else .unknownFlag pattern flag

/-- The flags other than that of Unicode, each where it appears first. -/
def distinctFlags (flags : Text) : Text := (flags.filter (· ≠ 'u')).eraseDups

def patternLiteral (body flags : Text) : Text := '/' :: (body ++ '/' :: flags)

/-- The regular expression that a custom pattern writes, or its fault. -/
inductive PatternReads : Text → Except PatternFault Text → Prop where
  | nothing : PatternReads [] (.error .empty)
  | bodiless {flags : Text} (last : '/' ∉ flags) :
      PatternReads ('/' :: '/' :: flags) (.error .empty)
  | plain {pattern : Text} (nonempty : pattern ≠ [])
      (bare : pattern.head? ≠ some '/' ∨ pattern.count '/' < 2) :
      PatternReads pattern (.ok pattern)
  | refused {body known later : Text} {flag : Char} (nonempty : body ≠ [])
      (last : '/' ∉ known ++ flag :: later) (before : ∀ c ∈ known, c ∈ literalFlags)
      (unknown : flag ∉ literalFlags) :
      PatternReads (patternLiteral body (known ++ flag :: later))
        (.error (flagFault (patternLiteral body (known ++ flag :: later)) flag))
  | unflagged {body flags : Text} (nonempty : body ≠ []) (unicode : ∀ c ∈ flags, c = 'u') :
      PatternReads (patternLiteral body flags) (.ok body)
  | flagged {body flags : Text} (nonempty : body ≠ []) (known : ∀ c ∈ flags, c ∈ literalFlags)
      (counted : ∃ c ∈ flags, c ≠ 'u') :
      PatternReads (patternLiteral body flags)
        (.ok ("(?" ++ distinctFlags flags ++ ")" ++ body))

/-! ### The parts of a literal -/

theorem splitLastSlash?_append {body flags : Text} (last : '/' ∉ flags) :
    splitLastSlash? (body ++ '/' :: flags) = some (body, flags) := by
  have passed : ∀ c ∈ flags.reverse, decide (c ≠ '/') = true := by
    intro c member
    simp only [ne_eq, decide_eq_true_eq]
    rintro rfl
    exact last (List.mem_reverse.mp member)
  have reversed : (body ++ '/' :: flags).reverse = flags.reverse ++ '/' :: body.reverse := by simp
  rw [splitLastSlash?, reversed, List.dropWhile_append_of_pos passed,
    List.takeWhile_append_of_pos passed]
  simp

theorem splitLastSlash?_eq_none {t : Text} (free : '/' ∉ t) : splitLastSlash? t = none := by
  have dropped : t.reverse.dropWhile (fun c : Char => decide (c ≠ '/')) = [] := by
    rw [List.dropWhile_eq_nil_iff]
    intro c member
    simp only [ne_eq, decide_eq_true_eq]
    rintro rfl
    exact free (List.mem_reverse.mp member)
  rw [splitLastSlash?, dropped]

theorem exists_last_slash {t : Text} (member : '/' ∈ t) :
    ∃ body flags, t = body ++ '/' :: flags ∧ '/' ∉ flags := by
  obtain ⟨flags, body, reversed, last⟩ :=
    List.eq_append_cons_of_mem (List.mem_reverse.mpr member)
  refine ⟨body.reverse, flags.reverse, ?_, by simpa using last⟩
  rw [← List.reverse_reverse t, reversed]
  simp

theorem slash_notMem {flags : Text} (known : ∀ c ∈ flags, c ∈ literalFlags) : '/' ∉ flags :=
  fun member => absurd (known '/' member) (by decide)

/-! ### The flags of a literal -/

theorem inlineFlags_of_known {flag : Char} (known : flag ∈ literalFlags)
    (pattern inline rest : Text) :
    inlineFlags pattern inline (flag :: rest) =
      inlineFlags pattern (if flag = 'u' ∨ flag ∈ inline then inline else inline ++ [flag])
        rest := by
  have cases : flag = 'i' ∨ flag = 'm' ∨ flag = 's' ∨ flag = 'x' ∨ flag = 'u' := by
    simpa [literalFlags] using known
  rcases cases with rfl | rfl | rfl | rfl | rfl <;> simp [inlineFlags]

theorem inlineFlags_of_unknown {flag : Char} (unknown : flag ∉ literalFlags)
    (pattern inline rest : Text) :
    inlineFlags pattern inline (flag :: rest) = .error (flagFault pattern flag) := by
  rw [inlineFlags.eq_def, flagFault]
  simp only
  split <;> simp_all [literalFlags]

theorem inlineFlags_known {flags : Text} (known : ∀ c ∈ flags, c ∈ literalFlags)
    (pattern inline : Text) :
    inlineFlags pattern inline flags =
      .ok (inline ++ (flags.filter fun c => c ≠ 'u' && c ∉ inline).eraseDups) := by
  induction flags generalizing inline with
  | nil => simp [inlineFlags]
  | cons flag rest ih =>
      obtain ⟨first, later⟩ := List.forall_mem_cons.mp known
      rw [inlineFlags_of_known first, ih later, List.filter_cons]
      split_ifs with skipped kept kept
      · simp_all
      · rfl
      · rw [List.eraseDups_cons, List.filter_filter, List.append_assoc, List.singleton_append]
        congr 5
        funext c
        by_cases same : c = flag <;> simp [same]
      · simp_all

theorem inlineFlags_unknown {known later : Text} {flag : Char}
    (before : ∀ c ∈ known, c ∈ literalFlags) (unknown : flag ∉ literalFlags)
    (pattern inline : Text) :
    inlineFlags pattern inline (known ++ flag :: later) = .error (flagFault pattern flag) := by
  induction known generalizing inline with
  | nil => exact inlineFlags_of_unknown unknown pattern inline later
  | cons c known ih =>
      obtain ⟨first, others⟩ := List.forall_mem_cons.mp before
      rw [List.cons_append, inlineFlags_of_known first, ih others]

theorem inlineFlags_distinct {flags : Text} (known : ∀ c ∈ flags, c ∈ literalFlags)
    (pattern : Text) : inlineFlags pattern [] flags = .ok (distinctFlags flags) := by
  rw [inlineFlags_known known, List.nil_append, distinctFlags]
  simp

theorem nodup_of_inlineFlags {pattern inline flags written : Text} (once : inline.Nodup)
    (read : inlineFlags pattern inline flags = .ok written) : written.Nodup := by
  induction flags generalizing inline with
  | nil =>
      cases read
      exact once
  | cons flag rest ih =>
      by_cases known : flag ∈ literalFlags
      · rw [inlineFlags_of_known known] at read
        apply ih ?_ read
        split_ifs with skipped
        · exact once
        · rw [not_or] at skipped
          exact once.append (List.nodup_singleton flag) (by simpa using skipped.2)
      · rw [inlineFlags_of_unknown known] at read
        cases read

theorem mem_distinctFlags {c : Char} {flags : Text} :
    c ∈ distinctFlags flags ↔ c ∈ flags ∧ c ≠ 'u' := by
  rw [distinctFlags, List.mem_eraseDups, List.mem_filter, decide_eq_true_eq]

theorem distinctFlags_eq_nil_iff {flags : Text} :
    distinctFlags flags = [] ↔ ∀ c ∈ flags, c = 'u' := by
  rw [List.eq_nil_iff_forall_not_mem]
  simp [mem_distinctFlags]

/-! ### What a pattern writes -/

section Literals

variable {body flags : Text} (nonempty : body ≠ []) (last : '/' ∉ flags)
include nonempty last

theorem customRegex_of_fault {fault : PatternFault}
    (read : inlineFlags (patternLiteral body flags) [] flags = .error fault) :
    customRegex (patternLiteral body flags) = .error fault := by
  have parts : patternLiteral? (patternLiteral body flags) = some (body, flags) :=
    splitLastSlash?_append last
  simp only [customRegex, parts, read]
  rw [if_neg (by simp [patternLiteral]), if_neg (by simpa using nonempty)]

theorem customRegex_of_flags {inline : Text}
    (read : inlineFlags (patternLiteral body flags) [] flags = .ok inline) :
    customRegex (patternLiteral body flags) =
      .ok (if inline = [] then body else withFlags inline body) := by
  have parts : patternLiteral? (patternLiteral body flags) = some (body, flags) :=
    splitLastSlash?_append last
  simp only [customRegex, parts, read]
  rw [if_neg (by simp [patternLiteral]), if_neg (by simpa using nonempty)]
  cases inline with
  | nil => rfl
  | cons flag inline => rfl

end Literals

theorem customRegex_of_known {body flags : Text} (nonempty : body ≠ [])
    (known : ∀ c ∈ flags, c ∈ literalFlags) :
    customRegex (patternLiteral body flags) =
      .ok (if distinctFlags flags = [] then body else withFlags (distinctFlags flags) body) :=
  customRegex_of_flags nonempty (slash_notMem known) (inlineFlags_distinct known _)

theorem customRegex_bodiless {flags : Text} (last : '/' ∉ flags) :
    customRegex ('/' :: '/' :: flags) = .error .empty := by
  have parts : patternLiteral? ('/' :: ([] ++ '/' :: flags)) = some ([], flags) :=
    splitLastSlash?_append last
  rw [List.nil_append] at parts
  simp [customRegex, parts]

theorem customRegex_plain {pattern : Text} (nonempty : pattern ≠ [])
    (bare : pattern.head? ≠ some '/' ∨ pattern.count '/' < 2) :
    customRegex pattern = .ok pattern := by
  have whole : patternLiteral? pattern = none := by
    rw [patternLiteral?.eq_def]
    split
    · rename_i rest
      apply splitLastSlash?_eq_none
      rcases bare with other | once
      · exact absurd rfl other
      · rw [List.count_cons_self, Nat.succ_lt_succ_iff, Nat.lt_one_iff] at once
        exact List.count_eq_zero.mp once
    · rfl
  simp [customRegex, whole, nonempty]

theorem customRegex_of_reads {pattern : Text} {outcome : Except PatternFault Text}
    (reads : PatternReads pattern outcome) : customRegex pattern = outcome := by
  cases reads with
  | nothing => rfl
  | bodiless last => exact customRegex_bodiless last
  | plain nonempty bare => exact customRegex_plain nonempty bare
  | refused nonempty last before unknown =>
      exact customRegex_of_fault nonempty last (inlineFlags_unknown before unknown _ [])
  | unflagged nonempty unicode =>
      have known : ∀ c ∈ _, c ∈ literalFlags := fun c member => unicode c member ▸ by decide
      rw [customRegex_of_known nonempty known, if_pos (distinctFlags_eq_nil_iff.mpr unicode)]
  | flagged nonempty known counted =>
      obtain ⟨c, member, other⟩ := counted
      rw [customRegex_of_known nonempty known,
        if_neg fun empty => other (distinctFlags_eq_nil_iff.mp empty c member)]
      rfl

theorem exists_first_unknown {flags : Text} (unknown : ¬∀ c ∈ flags, c ∈ literalFlags) :
    ∃ known flag later, flags = known ++ flag :: later ∧ (∀ c ∈ known, c ∈ literalFlags) ∧
      flag ∉ literalFlags := by
  cases found : flags.find? fun c => decide (c ∉ literalFlags) with
  | none => exact absurd (by simpa using found) unknown
  | some flag =>
      obtain ⟨fails, known, later, whole, before⟩ := List.find?_eq_some_iff_append.mp found
      exact ⟨known, flag, later, whole, by simpa using before, by simpa using fails⟩

theorem exists_reads (pattern : Text) : ∃ outcome, PatternReads pattern outcome := by
  cases pattern with
  | nil => exact ⟨_, .nothing⟩
  | cons first rest =>
      by_cases bare : (first :: rest).head? ≠ some '/' ∨ (first :: rest).count '/' < 2
      · exact ⟨_, .plain (List.cons_ne_nil first rest) bare⟩
      · obtain ⟨slash, second⟩ := not_or.mp bare
        obtain rfl : first = '/' := by simpa using slash
        have member : '/' ∈ rest := by
          by_contra absent
          exact second (by rw [List.count_cons_self, List.count_eq_zero.mpr absent]; decide)
        obtain ⟨body, flags, rfl, last⟩ := exists_last_slash member
        by_cases nonempty : body = []
        · rw [nonempty]
          exact ⟨_, .bodiless last⟩
        · by_cases known : ∀ c ∈ flags, c ∈ literalFlags
          · by_cases unicode : ∀ c ∈ flags, c = 'u'
            · exact ⟨_, .unflagged nonempty unicode⟩
            · exact ⟨_, .flagged nonempty known (by simpa using unicode)⟩
          · obtain ⟨earlier, flag, later, rfl, before, unknown⟩ := exists_first_unknown known
            exact ⟨_, .refused nonempty last before unknown⟩

theorem customRegex_eq_iff {pattern : Text} {outcome : Except PatternFault Text} :
    customRegex pattern = outcome ↔ PatternReads pattern outcome := by
  refine ⟨?_, customRegex_of_reads⟩
  rintro rfl
  obtain ⟨outcome, reads⟩ := exists_reads pattern
  rwa [customRegex_of_reads reads]

/-! ### Literals with the same flags -/

/-- Outcomes that no name tells apart: the same fault, or patterns that accept the same names. -/
inductive CompiledAlike :
    Except PatternFault ClassPattern → Except PatternFault ClassPattern → Prop where
  | accepting {pattern other : ClassPattern}
      (same : ∀ name, pattern.accepts name = other.accepts name) :
      CompiledAlike (.ok pattern) (.ok other)
  | empty : CompiledAlike (.error .empty) (.error .empty)
  | invalid (pattern other : Text) :
      CompiledAlike (.error (.invalid pattern)) (.error (.invalid other))

theorem flagLetters_distinct {flags : Text} (known : ∀ c ∈ flags, c ∈ literalFlags) :
    FlagLetters (distinctFlags flags) where
  known := by
    intro c member
    obtain ⟨member, -⟩ := mem_distinctFlags.mp member
    have cases : c = 'i' ∨ c = 'm' ∨ c = 's' ∨ c = 'x' ∨ c = 'u' := by
      simpa [literalFlags] using known c member
    rcases cases with rfl | rfl | rfl | rfl | rfl <;> exact ⟨_, rfl⟩
  nodup := nodup_of_inlineFlags List.nodup_nil (inlineFlags_distinct known flags)

section SameFlags

variable {flags others : Text} (known : ∀ c ∈ flags, c ∈ literalFlags)
  (knownOthers : ∀ c ∈ others, c ∈ literalFlags)
  (same : ∀ c, c ≠ 'u' → (c ∈ flags ↔ c ∈ others))
include known knownOthers same

theorem distinctFlags_perm : (distinctFlags flags).Perm (distinctFlags others) := by
  rw [List.perm_ext_iff_of_nodup (flagLetters_distinct known).nodup
    (flagLetters_distinct knownOthers).nodup]
  intro c
  rw [mem_distinctFlags, mem_distinctFlags]
  exact and_congr_left (same c)

theorem compile?_literals {body : Text} (nonempty : body ≠ []) :
    ∃ source other, customRegex (patternLiteral body flags) = .ok source ∧
      customRegex (patternLiteral body others) = .ok other ∧
      Regex.compile? source = Regex.compile? other := by
  have perm := distinctFlags_perm known knownOthers same
  refine ⟨_, _, customRegex_of_known nonempty known, customRegex_of_known nonempty knownOthers, ?_⟩
  by_cases none : distinctFlags flags = []
  · have noOthers : distinctFlags others = [] := List.nil_perm.mp (none ▸ perm)
    rw [if_pos none, if_pos noOthers]
  · have someOthers : distinctFlags others ≠ [] := by
      intro empty
      exact none (List.perm_nil.mp (empty ▸ perm))
    rw [if_neg none, if_neg someOthers]
    exact compile?_withFlags_perm (flagLetters_distinct known) none perm body

theorem compiledAlike_literals (body : Text) :
    CompiledAlike (ClassPattern.compile (.custom (patternLiteral body flags)))
      (ClassPattern.compile (.custom (patternLiteral body others))) := by
  by_cases nonempty : body = []
  · have empty {flags : Text} (known : ∀ c ∈ flags, c ∈ literalFlags) :
        customRegex (patternLiteral [] flags) = .error .empty :=
      customRegex_bodiless (slash_notMem known)
    simp only [nonempty, ClassPattern.compile, ClassPattern.source, empty known, empty knownOthers]
    exact .empty
  · obtain ⟨source, other, read, readOther, programs⟩ :=
      compile?_literals known knownOthers same nonempty
    simp only [ClassPattern.compile, ClassPattern.source, read, readOther, programs]
    cases Regex.compile? other with
    | none => exact .invalid _ _
    | some program => exact .accepting fun _ => rfl

end SameFlags

/-! ### Specifications -/

theorem ofName?_name (s : Style) : Style.ofName? s.name = some s := by
  cases s <;> decide

theorem name_of_ofName? {t : Text} {s : Style} (found : Style.ofName? t = some s) :
    s.name = t := by
  simpa using List.find?_some found

theorem ofText_text_ofText (t : Text) :
    PatternSpec.ofText (PatternSpec.ofText t).text = PatternSpec.ofText t := by
  cases found : Style.ofName? t with
  | none => simp only [PatternSpec.ofText, found, PatternSpec.text]
  | some s => simp only [PatternSpec.ofText, found, PatternSpec.text, ofName?_name]

theorem ofText_patternLiteral (body flags : Text) :
    PatternSpec.ofText (patternLiteral body flags) = .custom (patternLiteral body flags) := by
  cases found : Style.ofName? (patternLiteral body flags) with
  | none => simp only [PatternSpec.ofText, found]
  | some s =>
      have slash : s.name.head? = some '/' := by
        rw [name_of_ofName? found]
        rfl
      have letter : s.name.head? ≠ some '/' := by cases s <;> decide
      exact absurd slash letter

/-- A custom pattern is read as its grammar says, with the fault of the first flag that is none.
Literals of the same body whose flags are the same but for repetitions, order and that of Unicode
are refused alike or accept the same names. The text of a specification specifies it again. -/
theorem customRegex_reads_exactly :
    (∀ pattern outcome, customRegex pattern = outcome ↔ PatternReads pattern outcome) ∧
    (∀ body flags others, (∀ c ∈ flags, c ∈ literalFlags) → (∀ c ∈ others, c ∈ literalFlags) →
      (∀ c, c ≠ 'u' → (c ∈ flags ↔ c ∈ others)) →
      CompiledAlike (ClassPattern.compile (.ofText (patternLiteral body flags)))
        (ClassPattern.compile (.ofText (patternLiteral body others)))) ∧
    ∀ spec, (∃ t, PatternSpec.ofText t = spec) → PatternSpec.ofText spec.text = spec := by
  refine ⟨fun pattern outcome => customRegex_eq_iff, ?_, ?_⟩
  · intro body flags others known knownOthers same
    rw [ofText_patternLiteral, ofText_patternLiteral]
    exact compiledAlike_literals known knownOthers same body
  · rintro _ ⟨t, rfl⟩
    exact ofText_text_ofText t

/-- Flags in another order, and one of them twice. In a verbose pattern the blank is left out. -/
theorem customRegex_reads_exactly_repeated :
    customRegex "/^a b$/xumx" = .ok "(?xm)^a b$".toList ∧
      CompiledAlike (ClassPattern.compile (.ofText "/^a b$/xumx"))
        (ClassPattern.compile (.ofText "/^a b$/mx")) ∧
      (ClassPattern.compile (.ofText "/^a b$/mx")).map (fun pattern => pattern.accepts "ab") =
        .ok true ∧
      PatternSpec.ofText "pascal-case" = .style .pascalCase ∧
      PatternSpec.ofText (PatternSpec.style .pascalCase).text = .style .pascalCase := by
  obtain ⟨reads, alike, again⟩ := customRegex_reads_exactly
  have known : ∀ c ∈ "xumx".toList, c ∈ literalFlags := by simp [literalFlags]
  have knownOthers : ∀ c ∈ "mx".toList, c ∈ literalFlags := by simp [literalFlags]
  have same (c : Char) (counted : c ≠ 'u') : c ∈ "xumx".toList ↔ c ∈ "mx".toList := by
    grind
  have literal : "/^a b$/xumx".toList = patternLiteral "^a b$" "xumx" := by decide
  have other : "/^a b$/mx".toList = patternLiteral "^a b$" "mx" := by decide
  refine ⟨?_, ?_, by decide +kernel, by decide, again _ ⟨"pascal-case", by decide⟩⟩
  · rw [literal, reads]
    exact .flagged (by decide) known ⟨'x', by decide, by decide⟩
  · rw [literal, other]
    exact alike "^a b$" "xumx" "mx" known knownOthers same

end ClassLint
