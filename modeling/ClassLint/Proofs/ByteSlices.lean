import ClassLint.Proofs.ByteOffsets
import ClassLint.Proofs.ColonScanning
import ClassLint.Proofs.Dialects
import ClassLint.Proofs.Lexing
import ClassLint.Proofs.Rendering
import Mathlib.Data.List.DropRight

/-! Reading by slices. Selectors and stylesheets are read here with every part of a text that is
needed by itself cut out at byte offsets: at fixed ones, at those a scan has counted, and at the
length of another text. A slice that is refused refuses the whole reading. No reading is refused,
and each says what the reading without offsets does. -/

namespace ClassLint

/-! ### Groups from their opening bracket on -/

/-- A group with what opens it. Unlike the rest of a group it may be asked for anywhere; it then
ends at the first bracket that leaves none open. -/
def takeBalanced (bracket : Bracket) : Option Char → Nat → Text → Except Construct Taken
  | some _, _, [] => .error .string
  | none, _, [] => .error bracket.construct
  | quote, depth, '\\' :: c :: rest =>
    (takeBalanced bracket quote depth rest).map fun taken => (taken.push c).push '\\'
  | some quote, depth, c :: rest =>
    (takeBalanced bracket (if c = quote then none else some quote) depth rest).map (Taken.push c)
  | none, depth, c :: rest =>
    if isQuote c then (takeBalanced bracket (some c) depth rest).map (Taken.push c)
    else if c = bracket.opening then (takeBalanced bracket none (depth + 1) rest).map (Taken.push c)
    else if c = bracket.closing then
      if depth - 1 = 0 then .ok ([c], rest)
      else (takeBalanced bracket none (depth - 1) rest).map (Taken.push c)
    else (takeBalanced bracket none depth rest).map (Taken.push c)

/-- The marks at which a group is asked for. -/
inductive OpensGroup : Text → Bracket → Prop where
  | braces : OpensGroup ['#', '{'] .braces
  | square : OpensGroup ['['] .square
  | round : OpensGroup ['('] .round

theorem takeBalanced_succ (bracket : Bracket) (quote : Option Char) (depth : Nat) (t : Text) :
    takeBalanced bracket quote (depth + 1) t = takeGroup bracket quote depth t := by
  fun_induction takeGroup bracket quote depth t with
  | case1 => rfl
  | case2 => rfl
  | case3 quote depth c rest ih => rw [takeBalanced, ih]
  | case4 quote depth c rest alone ih =>
      rw [takeBalanced, ih]
      exact alone
  | case5 depth c rest alone quoted ih =>
      rw [takeBalanced, if_pos quoted, ih]
      exact alone
  | case6 depth rest alone unquoted ih =>
      rw [takeBalanced, if_neg unquoted, if_pos rfl, ih]
      exact alone
  | case7 rest alone unquoted unopened =>
      rw [takeBalanced, if_neg unquoted, if_neg unopened, if_pos rfl]
      · rfl
      · exact alone
  | case8 rest depth alone unquoted unopened ih =>
      rw [takeBalanced, if_neg unquoted, if_neg unopened, if_pos rfl, Nat.add_sub_cancel,
        if_neg (Nat.succ_ne_zero depth), ih]
      exact alone
  | case9 depth c rest alone unquoted unopened unclosed ih =>
      rw [takeBalanced, if_neg unquoted, if_neg unopened, if_neg unclosed, ih]
      exact alone

theorem takeBalanced_of_opens {lead : Text} {bracket : Bracket} (opens : OpensGroup lead bracket)
    (rest : Text) :
    takeBalanced bracket none 0 (lead ++ rest) =
      (takeGroup bracket none 0 rest).map (Taken.prepend lead) := by
  simp only [← takeBalanced_succ]
  cases opens with
  | braces =>
      change ((takeBalanced .braces none 1 rest).map (Taken.push '{')).map (Taken.push '#') = _
      cases takeBalanced .braces none 1 rest <;> rfl
  | square => rfl
  | round => rfl

namespace Sliced

/-! ### Selectors -/

def readAttribute (rest : Text) : Option (Except SelectorFault (Piece × Text)) :=
  match takeBalanced .square none 0 ('[' :: rest) with
  | .error construct => some (.error (.unterminated construct))
  | .ok (raw, after) => do
    let name := attributeName (← slice? raw 1 (byteLength raw - 1))
    if name.isEmpty then return .error (.expectedName '[')
    else return .ok (.token ⟨.attribute, name, raw⟩, after)

def commentText (raw : Text) : Option Text := do
  return trim (← slice? raw 2 (byteLength raw - 2))

def readComment (rest : Text) : Option (Except SelectorFault (Piece × Text)) :=
  match rest with
  | '*' :: body =>
    match takeComment body with
    | some (inner, after) => do
      let raw := '/' :: '*' :: inner ++ ['*', '/']
      return .ok (.token ⟨.comment, ← commentText raw, raw⟩, after)
    | none => some (.error (.unterminated .comment))
  | _ => some (.error (.unexpected '/'))

def readPiece (c : Char) (rest : Text) : Option (Except SelectorFault (Piece × Text)) :=
  if c = '[' then readAttribute rest
  else if c = '/' then readComment rest
  else some (ClassLint.readPiece c rest)

theorem readAttribute_eq (rest : Text) :
    readAttribute rest = some (ClassLint.readAttribute rest) := by
  have balanced := takeBalanced_of_opens .square rest
  rw [List.singleton_append] at balanced
  rw [readAttribute, ClassLint.readAttribute, balanced]
  cases read : takeGroup .square none 0 rest with
  | error construct => rfl
  | ok group =>
      obtain ⟨inner, closed⟩ := List.getLast?_eq_some_iff.mp (getLast?_of_takeGroup read)
      have cut : slice? ('[' :: group.1) 1 (byteLength ('[' :: group.1) - 1) = some inner := by
        rw [closed]
        exact slice?_between ['['] inner [']']
      have same : group.1.dropLast = inner := by rw [closed, List.dropLast_concat]
      simp only [Except.map, Taken.prepend, List.singleton_append, cut, same]
      simp only [Option.bind_eq_bind, Option.bind_some]
      split_ifs <;> rfl

theorem commentText_eq (body : Text) :
    commentText ('/' :: '*' :: body ++ ['*', '/']) = some (trim body) := by
  have cut : slice? ('/' :: '*' :: body ++ ['*', '/']) 2
      (byteLength ('/' :: '*' :: body ++ ['*', '/']) - 2) = some body :=
    slice?_between ['/', '*'] body ['*', '/']
  rw [commentText, cut]
  rfl

theorem readComment_eq (rest : Text) : readComment rest = some (ClassLint.readComment rest) := by
  fun_cases ClassLint.readComment rest with
  | case1 body taken closed =>
      rw [readComment, closed]
      simp only [commentText_eq]
      rfl
  | case2 body unclosed =>
      rw [readComment, unclosed]
  | case3 rest other =>
      rw [readComment]
      exact other

theorem readPiece_eq (c : Char) (rest : Text) :
    readPiece c rest = some (ClassLint.readPiece c rest) := by
  unfold readPiece
  split_ifs with square slash
  · rw [square]
    exact readAttribute_eq rest
  · rw [slash]
    exact readComment_eq rest
  · rfl

def readPieces (t : Text) : Option (Except SelectorFault (List (List Piece))) :=
  match t with
  | [] => some (.ok [[]])
  | c :: rest =>
    if c = ',' then (readPieces rest).map fun groups => groups.map ([] :: ·)
    else
      match read : readPiece c rest with
      | none => none
      | some (.error fault) => some (.error fault)
      | some (.ok (piece, after)) =>
        have := readPiece_shorter (Option.some.inj ((readPiece_eq c rest).symm.trans read))
        (readPieces after).map fun groups => groups.map (consPiece piece)
termination_by t.length
decreasing_by
  · simp only [List.length_cons, Nat.lt_add_one]
  · exact this

def parseList (t : Text) : Option (Except SelectorError (List Selector)) := do
  let groups ← readPieces t
  return (groups.bind (·.mapM Selector.ofPieces)).mapError fun fault => ⟨fault, t⟩

theorem readPieces_cons {c : Char} (inside : c ≠ ',') (rest : Text) :
    readPieces (c :: rest) =
      match ClassLint.readPiece c rest with
      | .error fault => some (.error fault)
      | .ok (piece, after) => (readPieces after).map fun groups => groups.map (consPiece piece) := by
  have read := readPiece_eq c rest
  rw [readPieces, if_neg inside]
  split <;> rename_i found <;> rw [read] at found
  · cases found
  · rw [Option.some.inj found]
  · rw [Option.some.inj found]

theorem readPieces_eq (t : Text) : readPieces t = some (ClassLint.readPieces t) := by
  fun_induction ClassLint.readPieces t with
  | case1 => rw [readPieces]
  | case2 rest ih =>
      rw [readPieces, if_pos rfl, ih]
      rfl
  | case3 c rest inside fault failed => rw [readPieces_cons inside, failed]
  | case4 c rest inside piece after found _ ih =>
      rw [readPieces_cons inside, found]
      exact congrArg (Option.map _) ih

theorem parseList_eq (t : Text) : parseList t = some (Selector.parseList t) := by
  rw [parseList, readPieces_eq, Selector.parseList, Selector.readList]
  cases ClassLint.readPieces t <;> rfl

/-! ### Declarations and at-rules -/

def colonOffset? (scan : ColonScan) (offset : Nat) : Text → Option Nat
  | [] => none
  | c :: rest =>
    if c = ':' && scan.quote?.isNone && scan.depth = 0 then some offset
    else colonOffset? (scan.step c) (offset + c.utf8Size) rest

/-- What stands before the mark of importance at the end of a text in lower case. -/
def markedHead? (lower : Text) : Option Text := do
  let head ← lower.dropSuffix? importantWord
  (trimEnd head).dropSuffix? ['!']

/-- The mark is looked for in a copy in lower case. What stands before it there says how many bytes
of the value are kept. -/
def stripImportant (value : Text) : Option (Text × Bool) :=
  let trimmed := trim value
  match markedHead? (trimmed.map Char.toLower) with
  | none => some (trimmed, false)
  | some head => do return (trimEnd (← slice? trimmed 0 (byteLength head)), true)

def declaration (t : Text) (position : Position) : Option (Except SheetError Declaration) :=
  match colonOffset? ⟨none, 0⟩ 0 t with
  | none => some (.error ⟨.unknownWord (firstWord t), position⟩)
  | some colon => do
    let (value, important) ← stripImportant (← slice? t (colon + 1) (byteLength t))
    let property ← slice? t 0 colon
    return .ok ⟨trim property, value, important, position⟩

def atRule (t : Text) (position : Position) : Option AtRule := do
  let name := t.takeWhile isAtNameCharacter
  return ⟨name, trim (← slice? t (byteLength name) (byteLength t)), position⟩

theorem colonOffset?_eq (scan : ColonScan) (offset : Nat) (t : Text) :
    colonOffset? scan offset t =
      (splitColon scan t).map fun taken => offset + byteLength taken.1 := by
  induction t generalizing scan offset with
  | nil => rfl
  | cons c rest ih =>
      rw [colonOffset?, splitColon]
      split_ifs
      · rfl
      · rw [ih, Option.map_map]
        simp [Function.comp_def, Taken.push, byteLength, Nat.add_assoc]

theorem dropSuffix?_eq_some_iff {t suffix head : Text} :
    t.dropSuffix? suffix = some head ↔ t = head ++ suffix := by
  simp [List.dropSuffix?_eq_some_iff]

theorem markedHead?_append (head : Text) {blanks word : Text} (blank : AllBlank blanks)
    (spelled : sameLetters word importantWord = true) :
    markedHead? ((head ++ '!' :: (blanks ++ word)).map Char.toLower) =
      some (head.map Char.toLower) := by
  have lower : word.map Char.toLower = importantWord := eq_of_beq spelled
  have whole : (head ++ '!' :: (blanks ++ word)).map Char.toLower =
      (head ++ ['!'] ++ blanks).map Char.toLower ++ importantWord := by
    simp [lower]
  rw [markedHead?, dropSuffix?_eq_some_iff.mpr whole, Option.bind_eq_bind, Option.bind_some,
    trimEnd_toLower, trimEnd_exclaimed head blank, dropSuffix?_eq_some_iff, List.map_append]
  rfl

theorem exists_of_markedHead? {t head : Text}
    (found : markedHead? (t.map Char.toLower) = some head) :
    ∃ start blanks word, AllBlank blanks ∧ sameLetters word importantWord = true ∧
      start ++ '!' :: (blanks ++ word) = t ∧ start.map Char.toLower = head := by
  obtain ⟨lower, ends, marked⟩ := Option.bind_eq_some_iff.mp found
  obtain ⟨first, word, rfl, rfl, spelled⟩ :=
    List.map_eq_append_iff.mp (dropSuffix?_eq_some_iff.mp ends)
  rw [trimEnd_toLower, dropSuffix?_eq_some_iff] at marked
  obtain ⟨start, mark, split, rfl, last⟩ := List.map_eq_append_iff.mp marked
  obtain ⟨c, rfl, exclaims⟩ := List.map_eq_singleton_iff.mp last
  obtain rfl := eq_of_toLower exclaims (by decide)
  obtain ⟨blanks, blank, whole⟩ := exists_trimEnd first
  refine ⟨start, blanks, word, blank, ?_, ?_, rfl⟩
  · rw [sameLetters, spelled]
    decide
  · rw [← whole, split]
    simp

theorem stripImportant_eq (value : Text) :
    stripImportant value = some (ClassLint.stripImportant value) := by
  rw [stripImportant, ClassLint.stripImportant]
  generalize trim value = t
  cases found : markedHead? (t.map Char.toLower) with
  | none =>
      have plain : beforeImportant? t = none := by
        rw [Option.eq_none_iff_forall_ne_some]
        intro head marked
        obtain ⟨before, blanks, word, -, blank, spelled, rfl⟩ := exists_of_beforeImportant? marked
        rw [← List.append_assoc, markedHead?_append _ blank spelled] at found
        cases found
      rw [plain]
  | some head =>
      obtain ⟨start, blanks, word, blank, spelled, rfl, rfl⟩ := exists_of_markedHead? found
      simp only [byteLength_toLower, slice?_prefix, beforeImportant?_append start blank spelled]
      rfl

theorem declaration_eq (t : Text) (position : Position) :
    declaration t position = some (Declaration.parse t position) := by
  rw [declaration, Declaration.parse, colonOffset?_eq]
  cases found : splitColon ⟨none, 0⟩ t with
  | none => rfl
  | some taken =>
      obtain ⟨property, value⟩ := taken
      have whole : property ++ ':' :: value = t := splitColon_append found
      have before : slice? t 0 (byteLength property) = some property := by
        rw [← whole]
        exact slice?_prefix property (':' :: value)
      have after : slice? t (byteLength property + 1) (byteLength t) = some value := by
        have cut := slice?_suffix (property ++ [':']) value
        rwa [byteLength_append, List.append_assoc, List.singleton_append, whole] at cut
      simp only [Option.map_some, Nat.zero_add, before, after]
      simp only [Option.bind_eq_bind, Option.bind_some, stripImportant_eq]
      rfl

theorem atRule_eq (t : Text) (position : Position) :
    atRule t position = some (.ofText t position) := by
  have cut := slice?_suffix (t.takeWhile isAtNameCharacter) (t.dropWhile isAtNameCharacter)
  rw [List.takeWhile_append_dropWhile] at cut
  rw [atRule, cut]
  rfl

/-! ### Stylesheets -/

def nextEvent (dialect : Dialect) (position : Position) (c : Char) (rest : Text) :
    Option (Except SheetError EventStep) :=
  if c = '/' && rest.head? = some '*' then
    match takeComment rest.tail with
    | none => some (.error ⟨.unclosedComment, position⟩)
    | some (body, after) => do
      let raw := '/' :: '*' :: body ++ ['*', '/']
      return .ok ⟨some (.comment ⟨← commentText raw, false, position⟩), after,
        position.advance raw⟩
  else if c = '/' && rest.head? = some '/' && dialect = .scss then do
    let raw := c :: rest.takeWhile (· ≠ '\n')
    let text ← slice? raw 2 (byteLength raw)
    return .ok ⟨some (.comment ⟨trim text, true, position⟩), rest.dropWhile (· ≠ '\n'),
      position.advance raw⟩
  else some (ClassLint.nextEvent dialect position c rest)

theorem nextEvent_eq (dialect : Dialect) (position : Position) (c : Char) (rest : Text) :
    nextEvent dialect position c rest = some (ClassLint.nextEvent dialect position c rest) := by
  unfold nextEvent
  split_ifs with block line
  · simp only [Bool.and_eq_true, decide_eq_true_eq] at block
    obtain ⟨rfl, first⟩ := block
    rw [ClassLint.nextEvent]
    simp only [first]
    cases takeComment rest.tail with
    | none => rfl
    | some taken =>
        simp only [commentText_eq]
        rfl
  · simp only [Bool.and_eq_true, decide_eq_true_eq] at line
    obtain ⟨⟨rfl, first⟩, rfl⟩ := line
    obtain ⟨inner, rfl⟩ := List.head?_eq_some_iff.mp first
    have cut := slice?_suffix ['/', '/'] (inner.takeWhile (· ≠ '\n'))
    exact congrArg (Option.bind · _) cut
  · rfl

def events (dialect : Dialect) (position : Position) (t : Text) :
    Option (List (Except SheetError Event)) :=
  match t with
  | [] => some []
  | c :: rest =>
    if isBlank c then events dialect (position.next c) rest
    else
      match read : nextEvent dialect position c rest with
      | none => none
      | some (.error error) => some [.error error]
      | some (.ok step) =>
        have := nextEvent_shorter
          (Option.some.inj ((nextEvent_eq dialect position c rest).symm.trans read))
        (events dialect step.position step.rest).map (step.event?.toList.map .ok ++ ·)
termination_by t.length
decreasing_by
  · simp only [List.length_cons, Nat.lt_add_one]
  · exact this

theorem events_cons {c : Char} (visible : ¬isBlank c = true) (dialect : Dialect)
    (position : Position) (rest : Text) :
    events dialect position (c :: rest) =
      match ClassLint.nextEvent dialect position c rest with
      | .error error => some [.error error]
      | .ok step =>
        (events dialect step.position step.rest).map (step.event?.toList.map .ok ++ ·) := by
  have read := nextEvent_eq dialect position c rest
  rw [events, if_neg visible]
  split <;> rename_i found <;> rw [read] at found
  · cases found
  · rw [Option.some.inj found]
  · rw [Option.some.inj found]

theorem events_eq (dialect : Dialect) (position : Position) (t : Text) :
    events dialect position t = some (ClassLint.events dialect position t) := by
  fun_induction ClassLint.events dialect position t with
  | case1 => rw [events]
  | case2 position c rest blank ih => rw [events, if_pos blank, ih]
  | case3 position c rest visible error failed => rw [events_cons visible, failed]
  | case4 position c rest visible step found _ ih =>
      rw [events_cons visible, found]
      exact congrArg (Option.map _) ih

def ofBlock (prelude : Text) (position : Position) (children : List Node) : Option Node :=
  match prelude with
  | '@' :: rest => do return .atBlock (← atRule rest position) children
  | selector => some (.rule ⟨selector, position⟩ children)

def ofStatement (t : Text) (position : Position) : Option (Except SheetError Node) :=
  match t with
  | '@' :: rest => do return .ok (.atStatement (← atRule rest position))
  | t => do return (← declaration t position).map .declaration

def buildNodes (frames : List Frame) (done : List Node) :
    List (Except SheetError Event) → Option (Except SheetError (List Node))
  | .ok (.statement t position) :: rest => do
    match ← ofStatement t position with
    | .error error => return .error error
    | .ok node => buildNodes frames (node :: done) rest
  | .ok (.closing position) :: rest =>
    match frames with
    | [] => some (.error ⟨.unexpectedBrace, position⟩)
    | frame :: frames => do
      let block ← ofBlock frame.prelude frame.position done.reverse
      buildNodes frames (block :: frame.before) rest
  | .ok (.opening prelude position brace) :: rest =>
    buildNodes (⟨prelude, position, brace, done⟩ :: frames) [] rest
  | .ok (.comment comment) :: rest => buildNodes frames (.comment comment :: done) rest
  | .error error :: _ => some (.error error)
  | [] =>
    match frames with
    | [] => some (.ok done.reverse)
    | frame :: _ => some (.error ⟨.unclosedBlock, frame.brace⟩)

def parse (dialect : Dialect) (source : Text) : Option (Except SheetError Sheet) := do
  buildNodes [] [] (← events dialect .start source)

theorem ofBlock_eq (prelude : Text) (position : Position) (children : List Node) :
    ofBlock prelude position children = some (.ofBlock prelude position children) := by
  fun_cases Node.ofBlock prelude position children with
  | case1 rest =>
      rw [ofBlock, atRule_eq]
      rfl
  | case2 selector plain =>
      rw [ofBlock]
      exact plain

theorem ofStatement_eq (t : Text) (position : Position) :
    ofStatement t position = some (Node.ofStatement t position) := by
  fun_cases Node.ofStatement t position with
  | case1 rest =>
      rw [ofStatement, atRule_eq]
      rfl
  | case2 t plain =>
      rw [ofStatement, declaration_eq]
      · rfl
      · exact plain

theorem buildNodes_eq (frames : List Frame) (done : List Node)
    (entries : List (Except SheetError Event)) :
    buildNodes frames done entries = some (ClassLint.buildNodes frames done entries) := by
  fun_induction ClassLint.buildNodes frames done entries with
  | case1 => rfl
  | case2 => rfl
  | case3 => rfl
  | case4 frames done comment rest ih => rw [buildNodes, ih]
  | case5 frames done prelude position brace rest ih => rw [buildNodes, ih]
  | case6 frames done t position rest error failed =>
      rw [buildNodes, ofStatement_eq, failed]
      rfl
  | case7 frames done t position rest node read ih =>
      rw [buildNodes, ofStatement_eq, read]
      exact ih
  | case8 done position rest => rfl
  | case9 done position rest frame frames ih =>
      rw [buildNodes, ofBlock_eq]
      exact ih

theorem parse_eq (dialect : Dialect) (source : Text) :
    parse dialect source = some (Sheet.parse dialect source) := by
  rw [parse, events_eq]
  exact buildNodes_eq [] [] _

end Sliced

theorem takeBalanced_ends {lead rest : Text} {bracket : Bracket} {taken : Taken}
    (opens : OpensGroup lead bracket)
    (read : takeBalanced bracket none 0 (lead ++ rest) = .ok taken) :
    2 ≤ taken.1.length ∧ lead <+: taken.1 ∧ taken.1.getLast? = some bracket.closing := by
  rw [takeBalanced_of_opens opens] at read
  obtain ⟨group, found, rfl⟩ := exists_of_map_eq_ok read
  obtain ⟨inner, closed⟩ := List.getLast?_eq_some_iff.mp (getLast?_of_takeGroup found)
  have opened : 1 ≤ lead.length := by cases opens <;> decide
  rw [Taken.prepend, closed]
  refine ⟨?_, List.prefix_append lead _, ?_⟩
  · rw [List.length_append, List.length_append, List.length_singleton]
    omega
  · rw [← List.append_assoc, List.getLast?_concat]

/-- No slice is refused: every list of selectors and every stylesheet is read with slices as it is
read without them. Where a group is asked for, it is the rest of the group behind what opens it, and
it has a bracket at each end. -/
theorem slices_within :
    (∀ t, Sliced.parseList t = some (Selector.parseList t)) ∧
      (∀ dialect source, Sliced.parse dialect source = some (Sheet.parse dialect source)) ∧
      ∀ lead bracket, OpensGroup lead bracket → ∀ rest,
        takeBalanced bracket none 0 (lead ++ rest) =
          (takeGroup bracket none 0 rest).map (Taken.prepend lead) ∧
        ∀ taken, takeBalanced bracket none 0 (lead ++ rest) = .ok taken →
          2 ≤ taken.1.length ∧ lead <+: taken.1 ∧ taken.1.getLast? = some bracket.closing := by
  refine ⟨Sliced.parseList_eq, Sliced.parse_eq, ?_⟩
  intro lead bracket opens rest
  exact ⟨takeBalanced_of_opens opens rest, fun taken => takeBalanced_ends opens⟩

/-- Wide characters next to every mark, and a comment whose marks would overlap. -/
theorem slices_within_wide :
    (Sliced.parseList "[é='ß]']/*/ü*/").map (Except.map (List.map Selector.meaning)) =
        some (.ok [[(.attribute, "é".toList), (.comment, "/ü".toList)]]) ∧
      (Sliced.parse .scss "@m(ß) \x7b/*/é*///ü\nß: ':' É! iMPORTANT\x7d").map
          (Except.map Sheet.render) =
        some (.ok "@m (ß)\x7b/*/é*///ü\nß:':' É!important;\x7d".toList) ∧
      OpensGroup ['['] .square ∧
      takeBalanced .square none 0 ("[".toList ++ "é=']']ß".toList) =
        .ok ("[é=']']".toList, "ß".toList) ∧
      2 ≤ "[é=']']".length ∧ ['['] <+: "[é=']']".toList ∧
      "[é=']']".toList.getLast? = some ']' := by
  obtain ⟨selectors, sheets, groups⟩ := slices_within
  have read : takeBalanced .square none 0 ("[".toList ++ "é=']']ß".toList) =
      .ok ("[é=']']".toList, "ß".toList) := by
    decide +kernel
  refine ⟨?_, ?_, .square, read, (groups ['['] .square .square _).2 _ read⟩
  · rw [selectors]
    decide +kernel
  · rw [sheets]
    decide +kernel

end ClassLint
