import ClassLint.Selector.Name
import ClassLint.Selector.Token
import ClassLint.Text.Comment

/-! The pieces of a selector list in the order they are written, before it is decided which blanks
are combinators. -/

namespace ClassLint

inductive Piece where
  | token (token : Token)
  | space (blanks : Text)
  | combinator (combinator : Combinator)
  deriving DecidableEq, Repr

def Piece.source : Piece → Text
  | .token t => t.raw
  | .space blanks => blanks
  | .combinator c => [c.mark]

/-- Pseudo-elements that may be written with one colon. -/
def singleColonElements : List Text := ["before", "after", "first-line", "first-letter"]

def readMarked (kind : Kind) (mark : Char) (rest : Text) : Except SelectorFault (Piece × Text) :=
  match takeName rest with
  | .error construct => .error (.unterminated construct)
  | .ok name =>
    if name.value.isEmpty then .error (.expectedName mark)
    else .ok (.token ⟨kind, name.value, mark :: name.raw⟩, name.rest)

/-- Placeholders, which keep their mark in the value. -/
def readPlaceholder (rest : Text) : Except SelectorFault (Piece × Text) :=
  match takeName rest with
  | .error construct => .error (.unterminated construct)
  | .ok name =>
    if name.raw.isEmpty then .error (.expectedName '%')
    else .ok (.token ⟨.tag, '%' :: name.value, '%' :: name.raw⟩, name.rest)

/-- The nesting selector, with a suffix that may be empty. -/
def readNesting (rest : Text) : Except SelectorFault (Piece × Text) :=
  match takeName rest with
  | .error construct => .error (.unterminated construct)
  | .ok name => .ok (.token ⟨.nesting, '&' :: name.value, '&' :: name.raw⟩, name.rest)

def readTag (t : Text) : Except SelectorFault (Piece × Text) :=
  match takeName t with
  | .error construct => .error (.unterminated construct)
  | .ok name => .ok (.token ⟨.tag, name.value, name.raw⟩, name.rest)

def attributeName (inner : Text) : Text :=
  (trimStart inner).takeWhile fun c => isNameCharacter c || c = '|'

def readAttribute (rest : Text) : Except SelectorFault (Piece × Text) :=
  match takeGroup .square none 0 rest with
  | .error construct => .error (.unterminated construct)
  | .ok group =>
    let name := attributeName group.1.dropLast
    if name.isEmpty then .error (.expectedName '[')
    else .ok (.token ⟨.attribute, name, '[' :: group.1⟩, group.2)

def pseudoKind (colons name : Text) : Kind :=
  if colons.length = 2 || singleColonElements.contains (name.map Char.toLower)
  then .pseudoElement else .pseudoClass

/-- Arguments in parentheses belong to the raw text and not to the value. -/
def readPseudo (colons rest : Text) : Except SelectorFault (Piece × Text) :=
  match takeName rest with
  | .error construct => .error (.unterminated construct)
  | .ok name =>
    if name.value.isEmpty then .error (.expectedName ':')
    else
      let kind := pseudoKind colons name.value
      let value := colons ++ name.raw
      match name.rest with
      | '(' :: arguments =>
        match takeGroup .round none 0 arguments with
        | .error construct => .error (.unterminated construct)
        | .ok group => .ok (.token ⟨kind, value, value ++ '(' :: group.1⟩, group.2)
      | rest => .ok (.token ⟨kind, value, value⟩, rest)

def readComment (rest : Text) : Except SelectorFault (Piece × Text) :=
  match rest with
  | '*' :: body =>
    match takeComment body with
    | some taken =>
      .ok (.token ⟨.comment, trim taken.1, '/' :: '*' :: taken.1 ++ ['*', '/']⟩, taken.2)
    | none => .error (.unterminated .comment)
  | _ => .error (.unexpected '/')

def readToken (c : Char) (rest : Text) : Except SelectorFault (Piece × Text) :=
  match c, rest with
  | '.', rest => readMarked .className '.' rest
  | '#', '{' :: rest => readTag ('#' :: '{' :: rest)
  | '#', rest => readMarked .id '#' rest
  | '*', rest => .ok (.token ⟨.universal, ['*'], ['*']⟩, rest)
  | '&', rest => readNesting rest
  | '[', rest => readAttribute rest
  | ':', ':' :: rest => readPseudo [':', ':'] rest
  | ':', rest => readPseudo [':'] rest
  | '/', rest => readComment rest
  | '%', rest => readPlaceholder rest
  | c, rest =>
    if isNameStart c || c = '-' || c = '\\' then readTag (c :: rest) else .error (.unexpected c)

def readPiece (c : Char) (rest : Text) : Except SelectorFault (Piece × Text) :=
  if isBlank c then .ok (.space (c :: rest.takeWhile isBlank), rest.dropWhile isBlank)
  else
    match Combinator.ofMark? c with
    | some combinator => .ok (.combinator combinator, rest)
    | none => readToken c rest

theorem Combinator.mark_of_ofMark? {c : Char} {combinator : Combinator}
    (found : Combinator.ofMark? c = some combinator) : combinator.mark = c := by
  unfold Combinator.ofMark? at found
  split at found <;> simp_all [Combinator.mark]
  all_goals simp [← found]

theorem readMarked_append {kind : Kind} {mark : Char} {rest after : Text} {piece : Piece}
    (read : readMarked kind mark rest = .ok (piece, after)) :
    piece.source ++ after = mark :: rest := by
  unfold readMarked at read
  grind [Piece.source, → takeName_append]

theorem readPlaceholder_append {rest after : Text} {piece : Piece}
    (read : readPlaceholder rest = .ok (piece, after)) : piece.source ++ after = '%' :: rest := by
  unfold readPlaceholder at read
  grind [Piece.source, → takeName_append]

theorem readNesting_append {rest after : Text} {piece : Piece}
    (read : readNesting rest = .ok (piece, after)) : piece.source ++ after = '&' :: rest := by
  unfold readNesting at read
  grind [Piece.source, → takeName_append]

theorem readTag_append {t after : Text} {piece : Piece} (read : readTag t = .ok (piece, after)) :
    piece.source ++ after = t := by
  unfold readTag at read
  grind [Piece.source, → takeName_append]

theorem readAttribute_append {rest after : Text} {piece : Piece}
    (read : readAttribute rest = .ok (piece, after)) : piece.source ++ after = '[' :: rest := by
  unfold readAttribute at read
  grind [Piece.source, → takeGroup_append]

theorem readPseudo_append {colons rest after : Text} {piece : Piece}
    (read : readPseudo colons rest = .ok (piece, after)) :
    piece.source ++ after = colons ++ rest := by
  unfold readPseudo at read
  grind [Piece.source, → takeName_append, → takeGroup_append]

theorem readComment_append {rest after : Text} {piece : Piece}
    (read : readComment rest = .ok (piece, after)) : piece.source ++ after = '/' :: rest := by
  unfold readComment at read
  grind [Piece.source, → takeComment_append]

theorem readToken_append {c : Char} {rest after : Text} {piece : Piece}
    (read : readToken c rest = .ok (piece, after)) : piece.source ++ after = c :: rest := by
  unfold readToken at read
  split at read
  case h_4 =>
    injection read with same
    injection same with first second
    simp [← first, ← second, Piece.source]
  all_goals grind [→ readMarked_append, → readTag_append, → readNesting_append,
    → readAttribute_append, → readPseudo_append, → readComment_append, → readPlaceholder_append]

/-- No character is lost or made up between a piece and the text after it. -/
theorem readPiece_append {c : Char} {rest after : Text} {piece : Piece}
    (read : readPiece c rest = .ok (piece, after)) : piece.source ++ after = c :: rest := by
  unfold readPiece at read
  grind [Piece.source, → readToken_append, Combinator.mark_of_ofMark?,
    List.takeWhile_append_dropWhile]

theorem readTag_source_ne_nil {t after : Text} {piece : Piece} (starts : StartsName t)
    (read : readTag t = .ok (piece, after)) : piece.source ≠ [] := by
  unfold readTag at read
  grind [Piece.source, → takeName_raw_ne_nil]

theorem readToken_source_ne_nil {c : Char} {rest after : Text} {piece : Piece}
    (read : readToken c rest = .ok (piece, after)) : piece.source ≠ [] := by
  unfold readToken at read
  split at read
  case h_2 => exact readTag_source_ne_nil (by simp [StartsName]) read
  case h_7 | h_8 =>
    unfold readPseudo at read
    grind [Piece.source]
  case h_9 =>
    unfold readComment at read
    grind [Piece.source]
  case h_11 =>
    split at read
    · exact readTag_source_ne_nil (by simp_all [StartsName, isNameCharacter]; grind) read
    · simp at read
  all_goals
    grind [Piece.source, readMarked, readNesting, readAttribute, readPlaceholder]

theorem readPiece_source_ne_nil {c : Char} {rest after : Text} {piece : Piece}
    (read : readPiece c rest = .ok (piece, after)) : piece.source ≠ [] := by
  unfold readPiece at read
  grind [Piece.source, → readToken_source_ne_nil]

theorem readPiece_shorter {c : Char} {rest after : Text} {piece : Piece}
    (read : readPiece c rest = .ok (piece, after)) : after.length < (c :: rest).length := by
  have same := congrArg List.length (readPiece_append read)
  have := List.length_pos_iff.2 (readPiece_source_ne_nil read)
  simp only [List.length_append] at same
  omega

end ClassLint
