import ClassLint.Command.Run
import ClassLint.Proofs.JsonValues

/-! Printing a configuration and reading it back. A configuration that was read is kept in one form,
whatever form it was written in, and its text stands for it again. -/

namespace ClassLint

/-! ### Options -/

namespace SecondaryOptions

theorem readPattern_toJson (option? : Option PatternOption) :
    readPattern (option?.map PatternOption.toJson) = .ok option? := by
  rcases option? with - | ⟨value⟩ | ⟨text⟩ <;> rfl

theorem readWhitelist_strings (names : List Text) :
    readWhitelist (some (.array (names.map .string))) = .ok names := by
  rw [readWhitelist]
  induction names with
  | nil => rfl
  | cons name names ih =>
      simp [List.mapM_cons, readName, ih, bind, Except.bind, pure, Except.pure]

def depthJson (options : SecondaryOptions) : Json :=
  options.maxDepth?.elim .null fun n => .number (.natural n)

theorem readDepth_depthJson {options : SecondaryOptions}
    (fits : ∀ depth ∈ options.maxDepth?, depth < 1 <<< 32) :
    readDepth (some options.depthJson) = .ok options.maxDepth? := by
  rw [depthJson]
  cases given : options.maxDepth? with
  | none => rfl
  | some depth =>
      have inRange : depth < 1 <<< 32 := fits depth given
      change readDepth (some (.number (.natural depth))) = _
      rw [readDepth, if_pos inRange]

def fields (options : SecondaryOptions) : List (Option Json) :=
  [options.component?.map PatternOption.toJson, options.element?.map PatternOption.toJson,
    options.variant?.map PatternOption.toJson, options.helper?.map PatternOption.toJson,
    some options.depthJson, some (.array (options.whitelist.map .string))]

theorem ofJson_object {members : List (Text × Json)} {options : SecondaryOptions}
    (given : fieldNames.map (Json.object members).field? = options.fields)
    (fits : ∀ depth ∈ options.maxDepth?, depth < 1 <<< 32) :
    ofJson (.object members) = .ok options := by
  simp only [fieldNames, fields, List.map_cons, List.cons.injEq] at given
  obtain ⟨component, element, variant, helper, depth, whitelist, -⟩ := given
  simp only [ofJson, ofFields, fieldNames, List.getElem?_cons_zero, List.getElem?_cons_succ,
    Option.bind_some, component, element, variant, helper, depth, whitelist, readPattern_toJson,
    readDepth_depthJson fits, readWhitelist_strings, bind, Except.bind]
  rfl

theorem find?_map_toList {α β : Type} (name other : Text) (f : α → β) (value? : Option α) :
    (value?.toList.map fun value => (name, f value)).find? (fun entry => entry.1 = other) =
      if name = other then value?.map fun value => (name, f value) else none := by
  cases value? with
  | none => simp
  | some value => by_cases same : name = other <;> simp [same]

def members (options : SecondaryOptions) : List (Text × Json) :=
  let pattern (name : Text) (option? : Option PatternOption) : List (Text × Json) :=
    option?.toList.map fun option => (name, option.toJson)
  pattern "component" options.component? ++ pattern "element" options.element? ++
    pattern "variant" options.variant? ++ pattern "helper" options.helper? ++
    [("maxDepth".toList, options.depthJson),
      ("componentWhitelist".toList, .array (options.whitelist.map .string))]

theorem toJson_eq (options : SecondaryOptions) : options.toJson = .object options.members := by
  rw [toJson, members, depthJson]
  cases options.maxDepth? <;> rfl

theorem field?_members (options : SecondaryOptions) :
    fieldNames.map (Json.object options.members).field? = options.fields := by
  -- The search goes by the name alone, which is lost once it is moved under the map.
  simp [fieldNames, fields, members, Json.field?, List.find?_append, find?_map_toList,
    Function.comp_def, -List.find?_map]

theorem nodup_members (options : SecondaryOptions) : (options.members.map Prod.fst).Nodup := by
  have distinct : fieldNames.Nodup := by decide
  have pattern (name : Text) (option? : Option PatternOption) :
      ((option?.toList.map fun option => (name, option.toJson)).map Prod.fst).Sublist [name] := by
    cases option? <;> simp
  refine List.Nodup.sublist ?_ distinct
  simp only [members, List.map_append]
  exact ((((pattern _ _).append (pattern _ _)).append (pattern _ _)).append (pattern _ _)).append
    (.refl _)

theorem map_normal_fields (options : SecondaryOptions) :
    options.fields.map (Option.map Json.normal) = options.fields := by
  have pattern (option? : Option PatternOption) :
      (option?.map PatternOption.toJson).map Json.normal = option?.map PatternOption.toJson := by
    rcases option? with - | ⟨value⟩ | ⟨text⟩ <;> simp [PatternOption.toJson, Json.normal]
  have depth : options.depthJson.normal = options.depthJson := by
    rw [depthJson]
    cases options.maxDepth? <;> simp [Json.normal]
  have names : (Json.array (options.whitelist.map .string)).normal =
      .array (options.whitelist.map .string) := by
    simp [Json.normal, Json.normalItems_eq_map, Function.comp_def]
  simp only [fields, List.map_cons, List.map_nil, pattern, Option.map_some, depth, names]

theorem ofJson_toJson {options : SecondaryOptions}
    (fits : ∀ depth ∈ options.maxDepth?, depth < 1 <<< 32) :
    ofJson options.toJson = .ok options ∧ ofJson options.toJson.normal = .ok options := by
  have given := field?_members options
  rw [toJson_eq]
  refine ⟨ofJson_object given fits, ?_⟩
  have found (name : Text) : (Json.object options.members).normal.field? name =
      ((Json.object options.members).field? name).map Json.normal :=
    Json.field?_normal (nodup_members options) name
  -- Putting the members in order moves the fields, but no field is found elsewhere by its name.
  rw [Json.normal] at found ⊢
  apply ofJson_object _ fits
  rw [← map_normal_fields, ← given, List.map_map]
  exact List.map_congr_left fun name _ => found name

theorem within_toJson {budget : Nat} {options : SecondaryOptions}
    (fits : ∀ depth ∈ options.maxDepth?, depth < 1 <<< 32) :
    Json.Within JsonNumber.IsInteger (budget + 3) options.toJson := by
  have pattern (name : Text) (option? : Option PatternOption) :
      ∀ member ∈ option?.toList.map fun option => (name, option.toJson),
        Json.Within JsonNumber.IsInteger (budget + 2) member.2 := by
    rcases option? with - | ⟨value⟩ | ⟨text⟩
    · simp
    · exact List.forall_mem_singleton.mpr (.bool value)
    · exact List.forall_mem_singleton.mpr (.string text)
  have depth : Json.Within JsonNumber.IsInteger (budget + 2) options.depthJson := by
    rw [depthJson]
    cases given : options.maxDepth? with
    | none => exact .null
    | some depth => exact .number ((fits depth given).trans (by decide))
  have names : Json.Within JsonNumber.IsInteger (budget + 2)
      (.array (options.whitelist.map .string)) :=
    .array (List.forall_mem_map.mpr fun name _ => .string name)
  rw [toJson_eq]
  refine .object ?_
  simp only [members, List.forall_mem_append]
  exact ⟨⟨⟨⟨pattern _ _, pattern _ _⟩, pattern _ _⟩, pattern _ _⟩,
    List.forall_mem_cons.mpr ⟨depth, List.forall_mem_singleton.mpr names⟩⟩

end SecondaryOptions

/-! ### Settings -/

deriving instance DecidableEq for RuleSetting

deriving instance DecidableEq for Config

theorem PrimaryOption.ofJson?_toJson (option : PrimaryOption) :
    PrimaryOption.ofJson? option.toJson = some option := by
  cases option <;> rfl

namespace RuleSetting

/-- How deep the brackets of secondary options may nest: they stand within an array, that of the
rules and that of the configuration. -/
def secondaryBudget : Nat := Json.depthBudget - 3

/-- Secondary options as they are kept: in order, with good numbers and within the budget. -/
def Stored (good : JsonNumber → Prop) (setting : RuleSetting) : Prop :=
  ∀ value, setting.secondary? = some value →
    value.normal = value ∧ Json.Within good secondaryBudget value

theorem ofJson?_toJson {good : JsonNumber → Prop} {setting : RuleSetting}
    (stored : setting.Stored good) : ofJson? setting.toJson = some setting := by
  cases setting with
  | primary option => cases option <;> rfl
  | single option =>
      rw [toJson, ofJson?, PrimaryOption.ofJson?_toJson]
      rfl
  | withOptions option value =>
      rw [toJson, ofJson?, PrimaryOption.ofJson?_toJson, Option.map_some,
        (stored value rfl).1]

theorem within_toJson {good : JsonNumber → Prop} {setting : RuleSetting}
    (stored : setting.Stored good) : Json.Within good (secondaryBudget + 1) setting.toJson := by
  have option (budget : Nat) (option : PrimaryOption) : Json.Within good budget option.toJson := by
    cases option with
    | enabled value => exact .bool value
    | always => exact .string _
    | never => exact .string _
  cases setting with
  | primary o => exact option _ o
  | single o => exact .array (List.forall_mem_singleton.mpr (option _ o))
  | withOptions o value =>
      exact .array (List.forall_mem_cons.mpr
        ⟨option _ o, List.forall_mem_singleton.mpr (stored value rfl).2⟩)

theorem stored_of_ofJson? {good : JsonNumber → Prop} {value : Json} {setting : RuleSetting}
    (within : Json.Within good (secondaryBudget + 1) value)
    (read : ofJson? value = some setting) : setting.Stored good := by
  unfold ofJson? at read
  split at read
  · obtain ⟨option, -, rfl⟩ := Option.map_eq_some_iff.mp read
    exact nofun
  · obtain ⟨option, -, rfl⟩ := Option.map_eq_some_iff.mp read
    rintro second ⟨⟩
    cases within with
    | array inside => exact ⟨Json.normal_normal _, (inside _ (by simp)).normal⟩
  · obtain ⟨option, -, rfl⟩ := Option.map_eq_some_iff.mp read
    exact nofun

end RuleSetting

namespace Config

/-- A configuration as it is kept. -/
structure Stored (good : JsonNumber → Prop) (config : Config) : Prop where
  ordered : config.Ordered
  settings : ∀ entry ∈ config.rules, entry.2.Stored good

theorem stored_empty (good : JsonNumber → Prop) : empty.Stored good :=
  ⟨ordered_empty, by simp [empty]⟩

theorem Stored.withRule {good : JsonNumber → Prop} {config : Config} {setting : RuleSetting}
    (stored : config.Stored good) (name : Text) (fits : setting.Stored good) :
    (config.withRule name setting).Stored good := by
  refine ⟨ordered_withRule stored.ordered name setting, ?_⟩
  intro entry member
  rcases mem_insertEntry member with rfl | earlier
  · exact fits
  · exact stored.settings entry earlier

/-! ### What is read -/

section Reading

open JsonNumber (InRange)

variable {config : Config} {t rest : Text}

theorem stored_of_readEntries {fuel : Nat} {first : Bool} {start : Config}
    (stored : start.Stored InRange)
    (read : readEntries fuel (RuleSetting.secondaryBudget + 1) first start t = .ok (config, rest)) :
    config.Stored InRange := by
  induction fuel generalizing first start t with
  | zero =>
      rw [readEntries] at read
      cases read
  | succ fuel ih =>
      rw [readEntries] at read
      obtain ⟨next?, -, read⟩ := exists_of_bind_eq_ok read
      cases next? with
      | none =>
          cases read
          exact stored
      | some t =>
          obtain ⟨⟨name, t⟩, -, read⟩ := exists_of_bind_eq_ok read
          obtain ⟨t, -, read⟩ := exists_of_bind_eq_ok read
          obtain ⟨⟨value, t⟩, given, read⟩ := exists_of_bind_eq_ok read
          have within := (Json.readsWithin _).value (Nat.succ_pos _) given
          cases found : RuleSetting.ofJson? value with
          | none =>
              simp only [found] at read
              cases read
          | some setting =>
              simp only [found] at read
              exact ih (stored.withRule name (RuleSetting.stored_of_ofJson? within found)) read

theorem stored_of_readRules
    (read : readRules (RuleSetting.secondaryBudget + 2) t = .ok (config, rest)) :
    config.Stored InRange := by
  rw [readRules] at read
  split at read
  · split_ifs at read
    exact stored_of_readEntries (stored_empty _) read
  · cases read

theorem stored_of_readMembers {fuel : Nat} {first : Bool} {given? : Option Config}
    (stored : ∀ given ∈ given?, given.Stored InRange)
    (read : readMembers fuel (RuleSetting.secondaryBudget + 2) first given? t =
      .ok (config, rest)) : config.Stored InRange := by
  induction fuel generalizing first given? t with
  | zero =>
      rw [readMembers] at read
      cases read
  | succ fuel ih =>
      rw [readMembers] at read
      obtain ⟨next?, -, read⟩ := exists_of_bind_eq_ok read
      cases next? with
      | none =>
          cases read
          cases given? with
          | none => exact stored_empty _
          | some given => exact stored given rfl
      | some t =>
          obtain ⟨⟨key, t⟩, -, read⟩ := exists_of_bind_eq_ok read
          simp only at read
          split_ifs at read with wanted again
          · cases read
          · obtain ⟨t, -, read⟩ := exists_of_bind_eq_ok read
            obtain ⟨⟨given, t⟩, here, read⟩ := exists_of_bind_eq_ok read
            refine ih ?_ read
            rintro other ⟨⟩
            exact stored_of_readRules here
          · obtain ⟨t, -, read⟩ := exists_of_bind_eq_ok read
            obtain ⟨t, -, read⟩ := exists_of_bind_eq_ok read
            exact ih stored read

theorem stored_of_readArray
    (read : readArray (RuleSetting.secondaryBudget + 2) t = .ok (config, rest)) :
    config.Stored InRange := by
  rw [readArray] at read
  obtain ⟨next?, -, read⟩ := exists_of_bind_eq_ok read
  cases next? with
  | none =>
      cases read
      exact stored_empty _
  | some t =>
      obtain ⟨⟨given, t⟩, here, read⟩ := exists_of_bind_eq_ok read
      simp only at read
      split at read
      · cases read
        exact stored_of_readRules here
      · cases read

theorem stored_of_parse (read : parse t = .ok config) : config.Stored InRange := by
  rw [parse] at read
  split at read
  · obtain ⟨⟨given, rest⟩, found, read⟩ := exists_of_bind_eq_ok read
    obtain ⟨⟨⟩, -, read⟩ := exists_of_bind_eq_ok read
    cases read
    exact stored_of_readArray found
  · obtain ⟨⟨given, rest⟩, found, read⟩ := exists_of_bind_eq_ok read
    obtain ⟨⟨⟩, -, read⟩ := exists_of_bind_eq_ok read
    cases read
    exact stored_of_readMembers (by simp) found
  · cases read

end Reading

/-! ### What is printed -/

section Printing

open JsonNumber (IsInteger)

theorem readEntries_spelled {earlier entries : List (Text × RuleSetting)}
    (increasing : Increasing (earlier ++ entries))
    (stored : ∀ entry ∈ entries, entry.2.Stored IsInteger) {first : Bool} (fuel : Nat) {t : Text}
    (inside : Json.SpelledMembers first (entries.map fun entry => (entry.1, entry.2.toJson)) t)
    (enough : t.length < fuel) (rest : Text) :
    readEntries fuel (RuleSetting.secondaryBudget + 1) first ⟨earlier⟩ (t ++ '}' :: rest) =
      .ok (⟨earlier ++ entries⟩, rest) := by
  induction entries generalizing earlier first fuel t with
  | nil =>
      obtain ⟨fuel, rfl⟩ : ∃ n, fuel = n + 1 := ⟨fuel - 1, by omega⟩
      cases inside with
      | nil blank =>
          simp [readEntries, Json.nextItem?_closing blank, Json.skipGaps_before blank, Json.isGap,
            bind, Except.bind, pure, Except.pure]
  | cons entry entries ih =>
      obtain ⟨fuel, rfl⟩ : ∃ n, fuel = n + 1 := ⟨fuel - 1, by omega⟩
      obtain ⟨name, setting⟩ := entry
      obtain ⟨storedHere, storedLater⟩ := List.forall_mem_cons.mp stored
      cases inside with
      | @cons _ separator before after s t _ _ _ separates blank blankAfter spelled others =>
          -- The names increase, so an entry that is read is always the last one so far.
          have last : withRule ⟨earlier⟩ name setting = ⟨earlier ++ [(name, setting)]⟩ := by
            obtain ⟨-, -, separate⟩ := List.pairwise_append.mp increasing
            rw [withRule, insertEntry_of_last fun entry member =>
              separate entry member (name, setting) List.mem_cons_self]
          have whole : earlier ++ (name, setting) :: entries =
              earlier ++ [(name, setting)] ++ entries := by simp
          rw [whole] at increasing ⊢
          have found := Json.reads_of_within (RuleSetting.within_toJson storedHere)
            (Json.fuelFor (after ++ (s ++ (t ++ '}' :: rest)))) blankAfter spelled
            (others.endsNumber rest) (by simp [Json.fuelFor]; omega)
          simp only [List.length_append, List.length_cons] at enough
          have more := ih increasing storedLater fuel others (by omega)
          simp [readEntries, Json.nextItem?_key separates, Json.readKey_quoted,
            Json.readColon_before blank, found, RuleSetting.ofJson?_toJson storedHere, more, last,
            bind, Except.bind]

theorem readRules_spelled {config : Config} (stored : config.Stored IsInteger) {gap t : Text}
    (blank : Json.Gap gap)
    (inside : Json.SpelledMembers true (config.rules.map fun entry => (entry.1, entry.2.toJson)) t)
    (rest : Text) :
    readRules (RuleSetting.secondaryBudget + 2) (gap ++ '{' :: (t ++ '}' :: rest)) =
      .ok (config, rest) := by
  have increasing : Increasing ([] ++ config.rules) := stored.ordered
  rw [readRules, Json.skipGaps_before blank (by decide)]
  exact readEntries_spelled increasing stored.settings (Json.fuelFor (t ++ '}' :: rest)) inside
    (by simp [Json.fuelFor]; omega) rest

theorem readMembers_closing {gap : Text} (blank : Json.Gap gap) (fuel budget : Nat) (first : Bool)
    (config : Config) (rest : Text) :
    readMembers (fuel + 1) budget first (some config) (gap ++ '}' :: rest) =
      .ok (config, rest) := by
  simp [readMembers, Json.nextItem?_closing blank, Json.skipGaps_before blank, Json.isGap, bind,
    Except.bind, pure, Except.pure]

theorem readMembers_rules {first : Bool} {separator before after : Text}
    (separates : Json.Separates first separator) (blank : Json.Gap before) (fuel budget : Nat) :
    readMembers (fuel + 1) budget first none
        (separator ++ (Json.quoted "rules" ++ (before ++ ':' :: after))) =
      (readRules budget after).bind fun found =>
        readMembers fuel budget false (some found.1) found.2 := by
  simp only [readMembers, Json.nextItem?_key separates, Json.readKey_quoted,
    Json.readColon_before blank, bind, Except.bind]
  rfl

theorem parse_of_readMembers {config : Config} {t gap : Text}
    (read : readMembers (Json.fuelFor t) (RuleSetting.secondaryBudget + 2) true none t =
      .ok (config, gap)) (blank : Json.Gap gap) : parse ('{' :: t) = .ok config := by
  have budget : Json.depthBudget - 1 = RuleSetting.secondaryBudget + 2 := rfl
  have opening : Json.skipGaps ('{' :: t) = '{' :: t := List.dropWhile_cons_of_neg (by decide)
  simp only [parse, opening, budget, read, Json.readEnd, Json.skipGaps_of_gap blank, bind,
    Except.bind]
  rfl

theorem parse_spelled {config : Config} (stored : config.Stored IsInteger) {s gap : Text}
    (spelled : Json.Spelled config.toJson s) (blank : Json.Gap gap) :
    parse (s ++ gap) = .ok config := by
  rw [toJson] at spelled
  cases spelled with
  | object inside =>
      cases inside with
      | @cons _ separator before after s t _ _ _ separates gapBefore gapAfter spelled others =>
          cases spelled with
          | @object _ u entries =>
              cases others with
              | nil closing =>
                  have rules := readRules_spelled stored gapAfter entries (t ++ '}' :: gap)
                  simp only [List.cons_append, List.append_assoc, List.nil_append]
                  apply parse_of_readMembers _ blank
                  rw [Json.fuelFor, readMembers_rules separates gapBefore, rules]
                  exact readMembers_closing closing _ _ _ _ _

end Printing

theorem Stored.isInteger {config : Config} (stored : config.Stored JsonNumber.InRange)
    (free : ∀ entry ∈ config.rules, ∀ value, entry.2.secondary? = some value → value.FloatFree) :
    config.Stored JsonNumber.IsInteger := by
  refine ⟨stored.ordered, ?_⟩
  intro entry member value given
  obtain ⟨settled, within⟩ := stored.settings entry member value given
  exact ⟨settled, within.isInteger (free entry member value given)⟩

end Config

theorem runCommand_printConfig {around : Surroundings} {arguments : List RawText}
    {invocation : Invocation} {path : RawText} {t : Text} {config : Config}
    (asked : Request.ofArguments arguments = .ok (.check invocation))
    (wanted : invocation.printConfig = true) (named : invocation.config? = some path)
    (found : around.read path = .ok t) (given : Config.parse t = .ok config) :
    runCommand around arguments = .ok ⟨0, config.toJson.pretty 0 ++ ['\n'], []⟩ := by
  have loaded : loadConfig around.read invocation.config? = .ok config := by
    simp only [loadConfig, named, found, given]
  rw [runCommand, asked]
  simp only [Except.map, Request.answer, Invocation.run, loaded, wanted, if_true]
  rfl

/-- A configuration that was read, in whatever form, is read again from what it is printed as, on
one line, on lines of its own, and as the command prints it, unless a number in the options of a
rule is a float. Options of the class format rule are read back too, from the value they are written
as and from its text. -/
theorem parse_printed :
    (∀ (t : Text) (config : Config), Config.parse t = .ok config →
      (∀ entry ∈ config.rules, ∀ value, entry.2.secondary? = some value → value.FloatFree) →
      Config.parse config.toJson.compact = .ok config ∧
      Config.parse (config.toJson.pretty 0) = .ok config ∧
      ∀ (around : Surroundings) (arguments : List RawText) (invocation : Invocation)
        (path : RawText), Request.ofArguments arguments = .ok (.check invocation) →
        invocation.printConfig = true → invocation.config? = some path →
        around.read path = .ok t →
        ∃ printed, runCommand around arguments = .ok ⟨0, printed, []⟩ ∧
          Config.parse printed = .ok config) ∧
    ∀ options : SecondaryOptions, (∀ depth ∈ options.maxDepth?, depth < 1 <<< 32) →
      SecondaryOptions.ofJson options.toJson = .ok options ∧
      SecondaryOptions.ofJson options.toJson.normal = .ok options ∧
      (Json.parse options.toJson.compact >>= SecondaryOptions.ofJson) = .ok options ∧
      (Json.parse (options.toJson.pretty 0) >>= SecondaryOptions.ofJson) = .ok options := by
  constructor
  · intro t config given free
    have stored := (Config.stored_of_parse given).isInteger free
    have line := Config.parse_spelled stored (Json.spelled_compact _) Json.gap_nil
    have lines := Config.parse_spelled stored (Json.spelled_pretty _ 0) Json.gap_nil
    have printed := Config.parse_spelled stored (Json.spelled_pretty _ 0) (Json.gap_newline 0)
    rw [List.append_nil] at line lines
    refine ⟨line, lines, ?_⟩
    intro around arguments invocation path asked wanted named found
    exact ⟨_, runCommand_printConfig asked wanted named found given, printed⟩
  · intro options fits
    obtain ⟨written, sorted⟩ := SecondaryOptions.ofJson_toJson fits
    have within : Json.Within JsonNumber.IsInteger Json.depthBudget options.toJson :=
      SecondaryOptions.within_toJson fits
    have line := Json.parse_spelled within (Json.spelled_compact _) Json.gap_nil
    have lines := Json.parse_spelled within (Json.spelled_pretty _ 0) Json.gap_nil
    rw [List.append_nil] at line lines
    rw [line, lines]
    exact ⟨written, sorted, written, written⟩

/-- A configuration as an array, with a rule set twice and with options out of order. -/
def repeatedConfigText : Text :=
  "[\x7b\"b\":[false],\"c\":[\x7b\"always\":null\x7d," ++
    "\x7b\"y\":1,\"x\":[-3,\"\\u0022\"],\"y\":\x7b\x7d\x7d],\"b\":\"never\"\x7d]"

def repeatedConfig : Config :=
  ⟨[("b", .primary .never), ("c", .withOptions .always (.object
    [("x", .array [.number (.negative 3), .string "\""]), ("y", .object [])]))]⟩

def unlimitedOptions : SecondaryOptions :=
  ⟨some (.enabled false), none, none, some (.pattern "^_"), none, ["btn"]⟩

/-- The last setting of each name and the last option of each key are kept, in order, and come back
from what is printed; and so do options without a limit on depth. -/
theorem parse_printed_repeated :
    Config.parse repeatedConfigText = .ok repeatedConfig ∧
      (∀ entry ∈ repeatedConfig.rules, ∀ value, entry.2.secondary? = some value →
        value.FloatFree) ∧
      Config.parse repeatedConfig.toJson.compact = .ok repeatedConfig ∧
      (∃ printed, runCommand { read := fun _ => .ok repeatedConfigText }
          ["-c", "rules", "--print-config"] = .ok ⟨0, printed, []⟩ ∧
        Config.parse printed = .ok repeatedConfig) ∧
      (∀ depth ∈ unlimitedOptions.maxDepth?, depth < 1 <<< 32) ∧
      SecondaryOptions.ofJson unlimitedOptions.toJson = .ok unlimitedOptions := by
  have read : Config.parse repeatedConfigText = .ok repeatedConfig := by decide +kernel
  have free : ∀ entry ∈ repeatedConfig.rules, ∀ value, entry.2.secondary? = some value →
      value.FloatFree := by
    simp only [repeatedConfig, List.forall_mem_cons]
    refine ⟨nofun, ?_, nofun⟩
    rintro value ⟨⟩
    exact .object (List.forall_mem_cons.mpr
      ⟨.array (List.forall_mem_cons.mpr
        ⟨.number nofun, List.forall_mem_singleton.mpr (.string _)⟩),
        List.forall_mem_singleton.mpr (.object nofun)⟩)
  have asked : Request.ofArguments ["-c", "rules", "--print-config"] =
      .ok (.check { config? := some "rules", printConfig := true }) := by decide +kernel
  have unlimited : ∀ depth ∈ unlimitedOptions.maxDepth?, depth < 1 <<< 32 := nofun
  obtain ⟨line, -, printed⟩ := parse_printed.1 _ _ read free
  exact ⟨read, free, line, printed _ _ _ _ asked rfl rfl rfl, unlimited,
    (parse_printed.2 _ unlimited).1⟩

end ClassLint
