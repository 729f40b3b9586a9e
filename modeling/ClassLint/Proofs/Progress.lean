import ClassLint.Proofs.Culprits
import ClassLint.Proofs.Dialects

/-! Reading a source by recursive descent, in rounds. A round reads at most one statement, and a
statement with a block takes rounds of its own. Every round returns or leaves less of the source, so
that no source takes more rounds than it has characters and one, and what is read in them is the
tree built from the events. -/

namespace ClassLint

structure Cursor where
  rest : Text
  position : Position
  deriving DecidableEq, Repr

namespace Cursor

def past (cursor : Cursor) (taken rest : Text) : Cursor := ⟨rest, cursor.position.advance taken⟩

def skipBlanks (cursor : Cursor) : Cursor :=
  cursor.past (cursor.rest.takeWhile isBlank) (cursor.rest.dropWhile isBlank)

def Reaches (cursor : Cursor) (taken : Text) (after : Cursor) : Prop :=
  taken ++ after.rest = cursor.rest ∧ after.position = cursor.position.advance taken

def Advances (cursor after : Cursor) : Prop := ∃ taken, taken ≠ [] ∧ cursor.Reaches taken after

end Cursor

inductive Lead where
  | ending
  | closing
  | semicolon
  | comment
  | line
  | statement
  deriving DecidableEq, Repr

def Lead.ofText (dialect : Dialect) : Text → Lead
  | [] => .ending
  | '}' :: _ => .closing
  | ';' :: _ => .semicolon
  | '/' :: '*' :: _ => .comment
  | '/' :: '/' :: _ => if dialect = .scss then .line else .statement
  | _ => .statement

/-- What a round comes to: the nodes are returned, or another round follows. -/
inductive Round where
  | returns (outcome : Except SheetError (List Node × Cursor))
  | goesOn (nodes : List Node) (cursor : Cursor)

def endStatement (text : Text) (position : Position) (after : Cursor) :
    Except SheetError (Option Node × Cursor) :=
  if text.isEmpty then .ok (none, after)
  else (Node.ofStatement text position).map fun node => (some node, after)

/-- How the nodes of a block are read: from its brace, which stands at the given place. -/
abbrev BlockReader := Position → Cursor → Option (Except SheetError (List Node × Cursor))

def readStatement (dialect : Dialect) (readBlock : BlockReader) (cursor : Cursor) :
    Option (Except SheetError (Option Node × Cursor)) :=
  match readPrelude dialect [] cursor.position cursor.rest with
  | .error error => some (.error error)
  | .ok prelude =>
    let text := trim prelude.text
    match prelude.rest with
    | '{' :: rest =>
      if text.isEmpty then some (.error ⟨.missingSelector, prelude.position⟩)
      else do
        match ← readBlock prelude.position ⟨rest, prelude.position.next '{'⟩ with
        | .error error => return .error error
        | .ok (children, after) => return .ok (some (.ofBlock text cursor.position children), after)
    | ';' :: rest => some (endStatement text cursor.position ⟨rest, prelude.position.next ';'⟩)
    | rest => some (endStatement text cursor.position ⟨rest, prelude.position⟩)

/-- One round of reading nodes. What it turns to depends on the first characters that are not
blank. -/
def readRound (dialect : Dialect) (readBlock : BlockReader) (block? : Option Position)
    (nodes : List Node) (cursor : Cursor) : Option Round :=
  let here := cursor.skipBlanks
  match Lead.ofText dialect here.rest with
  | .ending =>
    match block? with
    | some brace => some (.returns (.error ⟨.unclosedBlock, brace⟩))
    | none => some (.returns (.ok (nodes, here)))
  | .closing =>
    match block? with
    | none => some (.returns (.error ⟨.unexpectedBrace, here.position⟩))
    | some _ => some (.returns (.ok (nodes, here.past ['}'] here.rest.tail)))
  | .semicolon => some (.goesOn nodes (here.past [';'] here.rest.tail))
  | .comment =>
    match takeComment (here.rest.drop 2) with
    | none => some (.returns (.error ⟨.unclosedComment, here.position⟩))
    | some (body, rest) =>
      some (.goesOn (nodes ++ [.comment ⟨trim body, false, here.position⟩])
        (here.past ('/' :: '*' :: body ++ ['*', '/']) rest))
  | .line =>
    let line := here.rest.takeWhile (· ≠ '\n')
    some (.goesOn (nodes ++ [.comment ⟨trim (line.drop 2), true, here.position⟩])
      (here.past line (here.rest.dropWhile (· ≠ '\n'))))
  | .statement => do
    match ← readStatement dialect readBlock here with
    | .error error => return .returns (.error error)
    | .ok (node?, after) => return .goesOn (nodes ++ node?.toList) after

/-- The nodes up to the end of the source, or to the brace that closes the block opened at the given
place, behind those read already. There is no outcome if it takes more than the given number of
rounds, one after the other or one inside the other. -/
def readNodes (dialect : Dialect) :
    Nat → Option Position → List Node → Cursor → Option (Except SheetError (List Node × Cursor))
  | 0, _, _, _ => none
  | rounds + 1, block?, nodes, cursor => do
    let readBlock brace opened := readNodes dialect rounds (some brace) [] opened
    match ← readRound dialect readBlock block? nodes cursor with
    | .returns outcome => return outcome
    | .goesOn nodes cursor => readNodes dialect rounds block? nodes cursor

def blocksIn (dialect : Dialect) (rounds : Nat) : BlockReader := fun brace opened =>
  readNodes dialect rounds (some brace) [] opened

/-! ### Cursors -/

namespace Cursor

variable {cursor next after : Cursor} {taken later : Text}

theorem reaches_past {rest : Text} (whole : taken ++ rest = cursor.rest) :
    cursor.Reaches taken (cursor.past taken rest) :=
  ⟨whole, rfl⟩

theorem Reaches.refl (cursor : Cursor) : cursor.Reaches [] cursor := ⟨rfl, rfl⟩

theorem Reaches.trans (first : cursor.Reaches taken next) (second : next.Reaches later after) :
    cursor.Reaches (taken ++ later) after := by
  obtain ⟨whole, counted⟩ := first
  obtain ⟨more, countedMore⟩ := second
  exact ⟨by rw [List.append_assoc, more, whole],
    by rw [countedMore, counted, Position.advance_append]⟩

theorem Reaches.advances (reaches : cursor.Reaches taken next) (advances : next.Advances after) :
    cursor.Advances after := by
  obtain ⟨later, nonempty, more⟩ := advances
  exact ⟨taken ++ later, List.append_ne_nil_of_right_ne_nil taken nonempty, reaches.trans more⟩

theorem Advances.reaches (advances : cursor.Advances next) (reaches : next.Reaches later after) :
    cursor.Advances after := by
  obtain ⟨taken, nonempty, first⟩ := advances
  exact ⟨taken ++ later, List.append_ne_nil_of_left_ne_nil nonempty later, first.trans reaches⟩

theorem Advances.length_lt (advances : cursor.Advances after) :
    after.rest.length < cursor.rest.length := by
  obtain ⟨taken, nonempty, whole, -⟩ := advances
  rw [← whole, List.length_append]
  exact Nat.lt_add_of_pos_left (List.length_pos_iff.mpr nonempty)

theorem reaches_skipBlanks (cursor : Cursor) :
    cursor.Reaches (cursor.rest.takeWhile isBlank) cursor.skipBlanks :=
  reaches_past List.takeWhile_append_dropWhile

theorem visible_skipBlanks (cursor : Cursor) :
    ∀ c ∈ cursor.skipBlanks.rest.head?, isBlank c = false :=
  fun _ first => not_of_head?_dropWhile isBlank cursor.rest first

theorem skipBlanks_of_visible (visible : ∀ c ∈ cursor.rest.head?, isBlank c = false) :
    cursor.skipBlanks = cursor := by
  obtain ⟨_ | ⟨c, rest⟩, position⟩ := cursor
  · rfl
  · have stops : ¬isBlank c = true := by simp [visible c rfl]
    rw [skipBlanks, List.takeWhile_cons_of_neg stops, List.dropWhile_cons_of_neg stops]
    rfl

end Cursor

inductive Lead.Of (dialect : Dialect) : Text → Lead → Prop where
  | ending : Of dialect [] .ending
  | closing (rest : Text) : Of dialect ('}' :: rest) .closing
  | semicolon (rest : Text) : Of dialect (';' :: rest) .semicolon
  | comment (rest : Text) : Of dialect ('/' :: '*' :: rest) .comment
  | line (scss : dialect = .scss) (rest : Text) : Of dialect ('/' :: '/' :: rest) .line
  | statement {c : Char} {rest : Text} (open_ : c ≠ '}') (filled : c ≠ ';')
      (uncommented : ¬(c = '/' ∧ rest.head? = some '*'))
      (noLine : dialect = .scss → startsLineComment (c :: rest) = false) :
      Of dialect (c :: rest) .statement

theorem Lead.of_ofText (dialect : Dialect) (t : Text) : Lead.Of dialect t (.ofText dialect t) := by
  rw [Lead.ofText.eq_def]
  split
  · exact .ending
  · exact .closing _
  · exact .semicolon _
  · exact .comment _
  · split_ifs with scss
    · exact .line scss _
    · exact .statement (by decide) (by decide) (by simp) (fun same => absurd same scss)
  · rename_i empty closing semicolon comment line
    obtain ⟨c, rest, rfl⟩ := List.exists_cons_of_ne_nil empty
    refine .statement ?_ ?_ ?_ fun _ => ?_
    · rintro rfl
      exact closing rest rfl
    · rintro rfl
      exact semicolon rest rfl
    · rintro ⟨rfl, first⟩
      obtain ⟨tail, rfl⟩ := List.head?_eq_some_iff.mp first
      exact comment tail rfl
    · rw [startsLineComment.eq_def]
      split
      · rename_i found
        exact (line _ found).elim
      · rfl

/-! ### The tree from a cursor on -/

/-- The tree built from the events that follow a cursor. -/
def Cursor.built (dialect : Dialect) (frames : List Frame) (done : List Node)
    (cursor : Cursor) : Except SheetError (List Node) :=
  buildNodes frames done (events dialect cursor.position cursor.rest)

theorem events_blanks (dialect : Dialect) (position : Position) (t : Text) :
    events dialect (position.advance (t.takeWhile isBlank)) (t.dropWhile isBlank) =
      events dialect position t := by
  induction t generalizing position with
  | nil => rfl
  | cons c rest ih =>
      by_cases blank : isBlank c = true
      · rw [List.takeWhile_cons_of_pos blank, List.dropWhile_cons_of_pos blank, events_cons,
          if_pos blank, ← ih]
        rfl
      · rw [List.takeWhile_cons_of_neg blank, List.dropWhile_cons_of_neg blank]
        rfl

theorem built_cons {dialect : Dialect} {frames : List Frame} {done : List Node} {c : Char}
    {rest : Text} {position : Position} (visible : isBlank c = false) :
    Cursor.built dialect frames done ⟨c :: rest, position⟩ =
      match nextEvent dialect position c rest with
      | .error error => .error error
      | .ok step =>
        buildNodes frames done
          (step.event?.toList.map .ok ++ events dialect step.position step.rest) := by
  rw [Cursor.built, events_cons, if_neg (by simp [visible])]
  cases nextEvent dialect position c rest with
  | error error => rw [buildNodes]
  | ok step => rfl

/-! ### Statements -/

/-- How a statement ends: with a fault that the events have too, or with a node after at least one
character. -/
inductive StatementEnds (dialect : Dialect) (cursor : Cursor) :
    Except SheetError (Option Node × Cursor) → Prop where
  | failed {error : SheetError}
      (same : ∀ frames done, cursor.built dialect frames done = .error error) :
      StatementEnds dialect cursor (.error error)
  | read {node : Node} {after : Cursor} (advances : cursor.Advances after)
      (same : ∀ frames done, cursor.built dialect frames done =
        after.built dialect frames (node :: done)) :
      StatementEnds dialect cursor (.ok (some node, after))

/-- How a list of nodes ends: with a fault, at the end of the source or behind its closing brace. -/
inductive NodesEnd (dialect : Dialect) (block? : Option Position) (nodes : List Node)
    (cursor : Cursor) : Except SheetError (List Node × Cursor) → Prop where
  | failed {error : SheetError}
      (same : ∀ frames, frames.head?.map Frame.brace = block? →
        cursor.built dialect frames nodes.reverse = .error error) :
      NodesEnd dialect block? nodes cursor (.error error)
  | ended {list : List Node} {taken : Text} {after : Cursor} (top : block? = none)
      (reached : cursor.Reaches taken after)
      (same : cursor.built dialect [] nodes.reverse = .ok list) :
      NodesEnd dialect block? nodes cursor (.ok (list, after))
  | closed {list : List Node} {taken : Text} {after : Cursor} {brace : Position}
      (inside : block? = some brace) (reached : cursor.Reaches taken after)
      (same : ∀ frame frames, frame.brace = brace →
        cursor.built dialect (frame :: frames) nodes.reverse =
          after.built dialect frames (frame.close list)) :
      NodesEnd dialect block? nodes cursor (.ok (list, after))

/-- The blocks that open behind a cursor are read to their end. -/
def BlockReader.Reads (dialect : Dialect) (readBlock : BlockReader) (cursor : Cursor) : Prop :=
  ∀ brace opened, cursor.Advances opened →
    ∃ outcome, readBlock brace opened = some outcome ∧
      NodesEnd dialect (some brace) [] opened outcome

theorem BlockReader.Reads.skipBlanks {dialect : Dialect} {readBlock : BlockReader} {cursor : Cursor}
    (reads : readBlock.Reads dialect cursor) : readBlock.Reads dialect cursor.skipBlanks :=
  fun brace opened advances => reads brace opened (cursor.reaches_skipBlanks.advances advances)

section Statements

variable {dialect : Dialect} {readBlock : BlockReader} {position : Position} {c : Char}
  {rest : Text} {prelude : Prelude}

theorem startsVisibly_text (visible : isBlank c = false)
    (noLine : dialect = .scss → startsLineComment (c :: rest) = false)
    (inside : endsStatement c = false)
    (read : readPrelude dialect [] position (c :: rest) = .ok prelude) :
    StartsVisibly prelude.text := by
  have first := head?_text noLine read
  suffices nonempty : prelude.text ≠ [] by
    have found := List.head?_eq_some_head nonempty
    exact ⟨prelude.text.head nonempty, found, by rw [first _ found, visible]⟩
  rw [readPrelude_cons, inside, Bool.and_false, if_neg Bool.false_ne_true] at read
  cases taken : nextStep dialect [] position c rest with
  | error error =>
      rw [taken] at read
      cases read
  | ok step =>
      rw [taken] at read
      obtain ⟨tail, -, rfl⟩ := exists_of_map_eq_ok read
      rw [if_pos (nextStep_kept_of_no_comment noLine taken)]
      exact List.append_ne_nil_of_left_ne_nil (nextStep_taken_ne_nil taken) tail.text

theorem nextEvent_of_statement (lead : Lead.Of dialect (c :: rest) .statement) :
    nextEvent dialect position c rest =
      (readPrelude dialect [] position (c :: rest)).bind (statementStep position) := by
  cases lead with
  | statement open_ filled uncommented noLine =>
      have line : ¬(c = '/' && rest.head? = some '/' && dialect = .scss) = true := by
        simp only [Bool.and_eq_true, decide_eq_true_eq]
        rintro ⟨⟨rfl, first⟩, scss⟩
        obtain ⟨tail, rfl⟩ := List.head?_eq_some_iff.mp first
        exact Bool.noConfusion (noLine scss)
      rw [nextEvent, if_neg open_, if_neg filled, if_neg (by simpa using uncommented), if_neg line]
      cases readPrelude dialect [] position (c :: rest) <;> rfl

theorem statementEnds_endStatement {cursor after : Cursor} {text : Text} (nonempty : text ≠ [])
    (advances : cursor.Advances after)
    (same : ∀ frames done, cursor.built dialect frames done = buildNodes frames done
      (.ok (.statement text cursor.position) :: events dialect after.position after.rest)) :
    StatementEnds dialect cursor (endStatement text cursor.position after) := by
  rw [endStatement, if_neg (by simpa using nonempty)]
  cases said : Node.ofStatement text cursor.position with
  | error error =>
      refine .failed fun frames done => ?_
      rw [same, buildNodes, said]
  | ok node =>
      refine .read advances fun frames done => ?_
      rw [same, buildNodes, said]
      rfl

theorem statementEnds_block {cursor opened : Cursor} {text : Text} {brace : Position}
    (advances : cursor.Advances opened)
    (same : ∀ frames done, cursor.built dialect frames done =
      opened.built dialect (⟨text, cursor.position, brace, done⟩ :: frames) [])
    (reads : readBlock.Reads dialect cursor) :
    ∃ outcome, (do
        match ← readBlock brace opened with
        | .error error => return .error error
        | .ok (children, after) =>
          return .ok (some (.ofBlock text cursor.position children), after)) = some outcome ∧
      StatementEnds dialect cursor outcome := by
  obtain ⟨inner, read, ends⟩ := reads brace opened advances
  rw [read]
  cases ends with
  | failed fails =>
      refine ⟨_, rfl, .failed fun frames done => ?_⟩
      rw [same]
      exact fails _ rfl
  | ended top => cases top
  | closed inside reached closes =>
      cases inside
      refine ⟨_, rfl, .read (advances.reaches reached) fun frames done => ?_⟩
      rw [same]
      exact closes ⟨text, cursor.position, brace, done⟩ frames rfl

theorem built_of_statement (visible : isBlank c = false)
    (lead : Lead.Of dialect (c :: rest) .statement)
    (read : readPrelude dialect [] position (c :: rest) = .ok prelude)
    (frames : List Frame) (done : List Node) :
    Cursor.built dialect frames done ⟨c :: rest, position⟩ =
      match statementStep position prelude with
      | .error error => .error error
      | .ok step =>
        buildNodes frames done
          (step.event?.toList.map .ok ++ events dialect step.position step.rest) := by
  rw [built_cons visible, nextEvent_of_statement lead, read]
  rfl

theorem advances_of_readPrelude (inside : endsStatement c = false)
    (read : readPrelude dialect [] position (c :: rest) = .ok prelude) :
    Cursor.Advances ⟨c :: rest, position⟩ ⟨prelude.rest, prelude.position⟩ := by
  obtain ⟨taken, whole, counted⟩ := exists_taken_of_readPrelude read
  refine ⟨taken, ?_, whole, counted⟩
  rintro rfl
  have shorter := readPrelude_rest_lt inside read
  rw [← whole] at shorter
  exact Nat.lt_irrefl _ shorter

theorem exists_statementEnds (visible : isBlank c = false)
    (lead : Lead.Of dialect (c :: rest) .statement)
    (reads : readBlock.Reads dialect ⟨c :: rest, position⟩) :
    ∃ outcome, readStatement dialect readBlock ⟨c :: rest, position⟩ = some outcome ∧
      StatementEnds dialect ⟨c :: rest, position⟩ outcome := by
  rw [readStatement]
  cases read : readPrelude dialect [] position (c :: rest) with
  | error error =>
      refine ⟨_, rfl, .failed fun frames done => ?_⟩
      rw [built_cons visible, nextEvent_of_statement lead, read]
      rfl
  | ok prelude =>
      have same := built_of_statement visible lead read
      cases lead with
      | statement open_ filled uncommented noLine =>
          by_cases brace : c = '{'
          · -- A brace at once ends the text before it has begun.
            subst brace
            rw [readPrelude_of_ends (by decide)] at read
            cases read
            exact ⟨_, rfl, .failed same⟩
          · have inside : endsStatement c = false := by simp [endsStatement, brace, filled, open_]
            have nonempty : trim prelude.text ≠ [] :=
              trim_ne_nil (startsVisibly_text visible noLine inside read)
            have advances := advances_of_readPrelude inside read
            obtain ⟨text, left, place⟩ := prelude
            have past {mark : Char} {later : Text} (found : left = mark :: later) :
                Cursor.Advances ⟨c :: rest, position⟩ ⟨later, place.next mark⟩ :=
              advances.reaches (Cursor.reaches_past found.symm : Cursor.Reaches _ [mark] _)
            simp only [statementStep, statementStep.ended, List.isEmpty_iff, nonempty, if_false]
              at same ⊢
            split
            · exact statementEnds_block (past rfl) same reads
            · exact ⟨_, rfl, statementEnds_endStatement nonempty (past rfl) same⟩
            · refine ⟨_, rfl, statementEnds_endStatement nonempty advances fun frames done => ?_⟩
              simp only [same]
              rfl

end Statements

/-! ### Rounds -/

/-- What a round comes to: the nodes end, or they go on behind at least one character with what has
been read so far. -/
inductive RoundEnds (dialect : Dialect) (block? : Option Position) (nodes : List Node)
    (cursor : Cursor) : Round → Prop where
  | returns {outcome : Except SheetError (List Node × Cursor)}
      (ends : NodesEnd dialect block? nodes cursor outcome) :
      RoundEnds dialect block? nodes cursor (.returns outcome)
  | goesOn {more : List Node} {after : Cursor} (advances : cursor.Advances after)
      (same : ∀ frames, cursor.built dialect frames nodes.reverse =
        after.built dialect frames more.reverse) :
      RoundEnds dialect block? nodes cursor (.goesOn more after)

section Rounds

variable {dialect : Dialect} {readBlock : BlockReader} {rounds : Nat} {block? : Option Position}
  {nodes more : List Node} {cursor next : Cursor} {taken : Text}

theorem NodesEnd.of_reaches {outcome : Except SheetError (List Node × Cursor)}
    (reaches : cursor.Reaches taken next)
    (same : ∀ frames, cursor.built dialect frames nodes.reverse =
      next.built dialect frames more.reverse)
    (ends : NodesEnd dialect block? more next outcome) :
    NodesEnd dialect block? nodes cursor outcome := by
  cases ends with
  | failed fails => exact .failed fun frames open_ => (same frames).trans (fails frames open_)
  | ended top reached built => exact .ended top (reaches.trans reached) ((same []).trans built)
  | closed inside reached closes =>
      exact .closed inside (reaches.trans reached) fun frame frames opened =>
        (same (frame :: frames)).trans (closes frame frames opened)

theorem RoundEnds.of_skipBlanks {round : Round}
    (ends : RoundEnds dialect block? nodes cursor.skipBlanks round) :
    RoundEnds dialect block? nodes cursor round := by
  have reaches := cursor.reaches_skipBlanks
  have same (frames : List Frame) (done : List Node) :
      cursor.built dialect frames done = cursor.skipBlanks.built dialect frames done :=
    congrArg (buildNodes frames done) (events_blanks dialect cursor.position cursor.rest).symm
  cases ends with
  | returns ends => exact .returns (ends.of_reaches reaches fun frames => same frames nodes.reverse)
  | goesOn advances built =>
      exact .goesOn (reaches.advances advances) fun frames => (same frames _).trans (built frames)

theorem built_nil (frames : List Frame) (done : List Node) (position : Position) :
    Cursor.built dialect frames done ⟨[], position⟩ = buildNodes frames done [] := by
  rw [Cursor.built, events]

theorem built_closing (frames : List Frame) (done : List Node) (rest : Text)
    (position : Position) :
    Cursor.built dialect frames done ⟨'}' :: rest, position⟩ =
      buildNodes frames done
        (.ok (.closing position) :: events dialect (position.next '}') rest) :=
  built_cons (by decide)

theorem built_of_comment {frames : List Frame} {c : Char} {rest later : Text}
    {position place : Position} {comment : Comment} (visible : isBlank c = false)
    (read : nextEvent dialect position c rest = .ok ⟨some (.comment comment), later, place⟩) :
    Cursor.built dialect frames nodes.reverse ⟨c :: rest, position⟩ =
      Cursor.built dialect frames (nodes ++ [Node.comment comment]).reverse ⟨later, place⟩ := by
  rw [built_cons visible, read, List.reverse_append]
  rfl

theorem exists_roundEnds_of_visible (visible : ∀ c ∈ cursor.rest.head?, isBlank c = false)
    (reads : readBlock.Reads dialect cursor) :
    ∃ round, readRound dialect readBlock block? nodes cursor = some round ∧
      RoundEnds dialect block? nodes cursor round := by
  rw [readRound.eq_def, Cursor.skipBlanks_of_visible visible]
  obtain ⟨t, position⟩ := cursor
  dsimp only
  have lead := Lead.of_ofText dialect t
  generalize Lead.ofText dialect t = kind at lead ⊢
  cases lead with
  | ending =>
      cases block? with
      | none =>
          refine ⟨_, rfl, .returns (.ended rfl (.refl _) ?_)⟩
          rw [built_nil, buildNodes, List.reverse_reverse]
      | some brace =>
          refine ⟨_, rfl, .returns (.failed fun frames open_ => ?_)⟩
          -- The brace that the round knows of is the one that the innermost block reports.
          obtain ⟨frame, found, rfl⟩ := Option.map_eq_some_iff.mp open_
          obtain ⟨others, rfl⟩ := List.head?_eq_some_iff.mp found
          rw [built_nil, buildNodes]
  | closing rest =>
      cases block? with
      | none =>
          refine ⟨_, rfl, .returns (.failed fun frames open_ => ?_)⟩
          rw [List.head?_eq_none_iff.mp (Option.map_eq_none_iff.mp open_), built_closing,
            buildNodes]
      | some brace =>
          refine ⟨_, rfl, .returns (.closed rfl (Cursor.reaches_past rfl) fun frame frames _ => ?_)⟩
          rw [built_closing, buildNodes, List.reverse_reverse]
          rfl
  | semicolon rest =>
      refine ⟨_, rfl, .goesOn ⟨[';'], by decide, rfl, rfl⟩ fun frames => ?_⟩
      exact built_cons (by decide)
  | comment rest =>
      simp only [List.drop_succ_cons, List.drop_zero]
      cases found : takeComment rest with
      | none =>
          refine ⟨_, rfl, .returns (.failed fun frames _ => ?_)⟩
          rw [built_cons (by decide), nextEvent]
          simp [found]
      | some taken =>
          obtain ⟨body, later⟩ := taken
          have whole := takeComment_append found
          refine ⟨_, rfl, .goesOn ⟨_, List.cons_ne_nil _ _, ?_, rfl⟩ fun frames => ?_⟩
          · simpa [Cursor.past] using whole
          · apply built_of_comment (by decide)
            rw [nextEvent]
            simp [found]
  | line scss rest =>
      refine ⟨_, rfl, .goesOn ⟨_, ?_, List.takeWhile_append_dropWhile, rfl⟩ fun frames => ?_⟩
      · simp
      · subst scss
        apply built_of_comment (by decide)
        rfl
  | statement open_ filled uncommented noLine =>
      obtain ⟨outcome, read, ends⟩ :=
        exists_statementEnds (visible _ rfl) (.statement open_ filled uncommented noLine) reads
      simp only [read]
      cases ends with
      | failed fails =>
          exact ⟨_, rfl, .returns (.failed fun frames _ => fails frames nodes.reverse)⟩
      | read advances built =>
          refine ⟨_, rfl, .goesOn advances fun frames => ?_⟩
          rw [built, List.reverse_append]
          rfl

theorem exists_roundEnds (reads : readBlock.Reads dialect cursor) :
    ∃ round, readRound dialect readBlock block? nodes cursor = some round ∧
      RoundEnds dialect block? nodes cursor round := by
  have again : readRound dialect readBlock block? nodes cursor.skipBlanks =
      readRound dialect readBlock block? nodes cursor := by
    rw [readRound.eq_def, Cursor.skipBlanks_of_visible cursor.visible_skipBlanks,
      readRound.eq_def]
  obtain ⟨round, read, ends⟩ :=
    exists_roundEnds_of_visible cursor.visible_skipBlanks reads.skipBlanks
  exact ⟨round, again.symm.trans read, ends.of_skipBlanks⟩

theorem readNodes_succ (dialect : Dialect) (rounds : Nat) (block? : Option Position)
    (nodes : List Node) (cursor : Cursor) :
    readNodes dialect (rounds + 1) block? nodes cursor =
      (readRound dialect (blocksIn dialect rounds) block? nodes cursor).bind fun
        | .returns outcome => some outcome
        | .goesOn nodes cursor => readNodes dialect rounds block? nodes cursor :=
  rfl

/-- Reading nodes ends in any number of rounds above that of the characters left. -/
theorem exists_nodesEnd (dialect : Dialect) {rounds : Nat} (block? : Option Position)
    (nodes : List Node) (cursor : Cursor) (left : cursor.rest.length < rounds) :
    ∃ outcome, readNodes dialect rounds block? nodes cursor = some outcome ∧
      NodesEnd dialect block? nodes cursor outcome := by
  induction rounds generalizing block? nodes cursor with
  | zero => exact absurd left (Nat.not_lt_zero _)
  | succ rounds ih =>
      have later (after : Cursor) (advances : cursor.Advances after) :
          after.rest.length < rounds :=
        Nat.lt_of_lt_of_le advances.length_lt (Nat.le_of_lt_succ left)
      have reads : (blocksIn dialect rounds).Reads dialect cursor :=
        fun brace opened advances => ih (some brace) [] opened (later opened advances)
      obtain ⟨round, read, ends⟩ := exists_roundEnds reads
      rw [readNodes_succ, read]
      cases ends with
      | returns ends => exact ⟨_, rfl, ends⟩
      | @goesOn more after advances same =>
          obtain ⟨outcome, following, ends⟩ := ih block? more after (later after advances)
          obtain ⟨taken, -, reaches⟩ := advances
          exact ⟨outcome, following, ends.of_reaches reaches same⟩

end Rounds

/-! ### The number of rounds -/

/-- A reader of blocks says what another one says, where that one says something. -/
def BlockReader.Extends (readMore readBlock : BlockReader) : Prop :=
  ∀ ⦃brace opened outcome⦄, readBlock brace opened = some outcome →
    readMore brace opened = some outcome

section Extending

variable {dialect : Dialect} {readBlock readMore : BlockReader} {block? : Option Position}
  {nodes : List Node} {cursor : Cursor} (extends_ : readMore.Extends readBlock)
include extends_

theorem readStatement_extends {outcome : Except SheetError (Option Node × Cursor)}
    (read : readStatement dialect readBlock cursor = some outcome) :
    readStatement dialect readMore cursor = some outcome := by
  unfold readStatement at read ⊢
  split at read
  · exact read
  · simp only at read ⊢
    split at read
    · split at read
      · rename_i empty
        rwa [if_pos empty]
      · rename_i filled
        obtain ⟨inner, found, later⟩ := Option.bind_eq_some_iff.mp read
        rw [if_neg filled, extends_ found]
        exact later
    · exact read
    · exact read

theorem readRound_extends {round : Round}
    (read : readRound dialect readBlock block? nodes cursor = some round) :
    readRound dialect readMore block? nodes cursor = some round := by
  unfold readRound at read ⊢
  simp only at read ⊢
  split at read
  case h_6 =>
    obtain ⟨outcome, found, later⟩ := Option.bind_eq_some_iff.mp read
    rw [readStatement_extends extends_ found]
    exact later
  all_goals exact read

end Extending

theorem readNodes_more {dialect : Dialect} {rounds : Nat} {block? : Option Position}
    {nodes : List Node} {cursor : Cursor} {outcome : Except SheetError (List Node × Cursor)}
    (read : readNodes dialect rounds block? nodes cursor = some outcome) :
    readNodes dialect (rounds + 1) block? nodes cursor = some outcome := by
  induction rounds generalizing block? nodes cursor outcome with
  | zero => cases read
  | succ rounds ih =>
      have extends_ : (blocksIn dialect (rounds + 1)).Extends (blocksIn dialect rounds) :=
        fun _ _ _ => ih
      rw [readNodes_succ] at read ⊢
      obtain ⟨round, found, later⟩ := Option.bind_eq_some_iff.mp read
      rw [readRound_extends extends_ found]
      cases round with
      | returns outcome => exact later
      | goesOn more after => exact ih later

theorem exists_outcome (dialect : Dialect) (block? : Option Position) (nodes : List Node)
    (cursor : Cursor) :
    ∃ outcome, NodesEnd dialect block? nodes cursor outcome ∧
      ∀ rounds, cursor.rest.length < rounds →
        readNodes dialect rounds block? nodes cursor = some outcome := by
  obtain ⟨outcome, read, ends⟩ :=
    exists_nodesEnd dialect block? nodes cursor (Nat.lt_succ_self cursor.rest.length)
  refine ⟨outcome, ends, fun rounds more => ?_⟩
  induction rounds, more using Nat.le_induction with
  | base => exact read
  | succ rounds _ ih => exact readNodes_more ih

theorem reads_blocksIn (dialect : Dialect) {rounds : Nat} {cursor : Cursor}
    (enough : cursor.rest.length ≤ rounds) : (blocksIn dialect rounds).Reads dialect cursor :=
  fun brace opened advances => exists_nodesEnd dialect (some brace) [] opened
    (Nat.lt_of_lt_of_le advances.length_lt enough)

theorem exists_statementEnds_of_lead {dialect : Dialect} {readBlock : BlockReader} {cursor : Cursor}
    (reads : readBlock.Reads dialect cursor)
    (statement : Lead.ofText dialect cursor.skipBlanks.rest = .statement) :
    ∃ outcome, readStatement dialect readBlock cursor.skipBlanks = some outcome ∧
      StatementEnds dialect cursor.skipBlanks outcome := by
  have visible := cursor.visible_skipBlanks
  have lead := Lead.of_ofText dialect cursor.skipBlanks.rest
  have reads := reads.skipBlanks
  rw [statement] at lead
  generalize cursor.skipBlanks = here at visible lead reads
  obtain ⟨t, position⟩ := here
  cases lead with
  | statement open_ filled uncommented noLine =>
      exact exists_statementEnds (visible _ rfl) (.statement open_ filled uncommented noLine) reads

theorem parse_of_nodesEnd {dialect : Dialect} {source : Text}
    {outcome : Except SheetError (List Node × Cursor)}
    (ends : NodesEnd dialect none [] ⟨source, .start⟩ outcome) :
    outcome.map Prod.fst = Sheet.parse dialect source := by
  cases ends with
  | failed fails => exact (fails [] rfl).symm
  | ended _ _ same => exact same.symm
  | closed inside => cases inside

/-- Reading makes progress, with as many rounds for the blocks as there are characters left. Every
round returns or leaves at least one character behind. Where a round turns to a statement, that is
an error, or a node and again at least one character; it is never nothing. So reading nodes has one
outcome from every cursor, however many more rounds it may take, and from the start of a source this
is what the source is read as. -/
theorem readNodes_progress (dialect : Dialect) :
    (∀ rounds block? nodes cursor, cursor.rest.length ≤ rounds →
      ∃ round, readRound dialect (blocksIn dialect rounds) block? nodes cursor = some round ∧
        ∀ more after, round = .goesOn more after → cursor.Advances after) ∧
    (∀ (rounds : Nat) (cursor : Cursor), cursor.rest.length ≤ rounds →
      Lead.ofText dialect cursor.skipBlanks.rest = .statement →
      (∃ error, readStatement dialect (blocksIn dialect rounds) cursor.skipBlanks =
        some (.error error)) ∨
      ∃ node after, readStatement dialect (blocksIn dialect rounds) cursor.skipBlanks =
        some (.ok (some node, after)) ∧ cursor.skipBlanks.Advances after) ∧
    (∀ block? nodes cursor, ∃ outcome, ∀ rounds, cursor.rest.length < rounds →
      readNodes dialect rounds block? nodes cursor = some outcome) ∧
    ∀ source rounds, source.length < rounds →
      (readNodes dialect rounds none [] ⟨source, .start⟩).map (Except.map Prod.fst) =
        some (Sheet.parse dialect source) := by
  refine ⟨?_, ?_, ?_, ?_⟩
  · intro rounds block? nodes cursor enough
    obtain ⟨round, read, ends⟩ := exists_roundEnds (reads_blocksIn dialect enough)
    refine ⟨round, read, ?_⟩
    rintro more after rfl
    cases ends with
    | goesOn advances => exact advances
  · intro rounds cursor enough statement
    obtain ⟨outcome, read, ends⟩ :=
      exists_statementEnds_of_lead (reads_blocksIn dialect enough) statement
    cases ends with
    | failed => exact .inl ⟨_, read⟩
    | read advances => exact .inr ⟨_, _, read, advances⟩
  · intro block? nodes cursor
    obtain ⟨outcome, -, read⟩ := exists_outcome dialect block? nodes cursor
    exact ⟨outcome, read⟩
  · intro source rounds enough
    obtain ⟨outcome, ends, read⟩ := exists_outcome dialect none [] ⟨source, .start⟩
    rw [read rounds enough, Option.map_some, parse_of_nodesEnd ends]

/-- A slash that starts no comment, a dropped line comment and two blocks that stay open. -/
theorem readNodes_progress_unclosed : ∃ here : Cursor,
    here = ⟨" /b // c\n\x7b".toList, ⟨1, 4⟩⟩ ∧ here.rest.length ≤ 10 ∧
      Lead.ofText .scss here.skipBlanks.rest = .statement ∧
      ((∃ error, readStatement .scss (blocksIn .scss 10) here.skipBlanks = some (.error error)) ∨
        ∃ node after, readStatement .scss (blocksIn .scss 10) here.skipBlanks =
          some (.ok (some node, after)) ∧ here.skipBlanks.Advances after) ∧
      "a \x7b /b // c\n\x7b".length < 14 ∧
      (readNodes .scss 14 none [] ⟨"a \x7b /b // c\n\x7b".toList, .start⟩).map
        (Except.map Prod.fst) = some (.error ⟨.unclosedBlock, ⟨2, 1⟩⟩) := by
  have failed : Sheet.parse .scss "a \x7b /b // c\n\x7b" = .error ⟨.unclosedBlock, ⟨2, 1⟩⟩ := by
    rw [← map_eq_error_iff (f := fun _ => ())]
    decide +kernel
  have statement : Lead.ofText .scss
      (Cursor.skipBlanks ⟨" /b // c\n\x7b".toList, ⟨1, 4⟩⟩).rest = .statement := by
    decide +kernel
  obtain ⟨-, statements, -, whole⟩ := readNodes_progress .scss
  exact ⟨_, rfl, by decide, statement, statements 10 _ (by decide) statement, by decide,
    (whole _ 14 (by decide)).trans (congrArg some failed)⟩

end ClassLint
