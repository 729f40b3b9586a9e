import ClassLint.Sheet.Parse
import ClassLint.Proofs.Trimming

/-! Writing the tree of a stylesheet back as text. -/

namespace ClassLint

def AtRule.text (head : AtRule) : Text := '@' :: (head.name ++ ' ' :: head.params)

def Declaration.mark (word : Text) (declaration : Declaration) : Text :=
  if declaration.important then '!' :: word else []

def Declaration.text (word : Text) (declaration : Declaration) : Text :=
  declaration.property ++ ':' :: (declaration.value ++ declaration.mark word)

def Comment.source (comment : Comment) : Text :=
  if comment.inline then '/' :: '/' :: (comment.text ++ ['\n'])
  else '/' :: '*' :: (comment.text ++ ['*', '/'])

/-- The texts that nodes can be written as, with nothing between them. They differ in the case of
the word that important declarations end in. -/
inductive Written : List Node → Text → Prop where
  | nil : Written [] []
  | rule (head : StyleRule) {children nodes : List Node} {inner after : Text}
      (inside : Written children inner) (more : Written nodes after) :
      Written (.rule head children :: nodes) (head.selector ++ '{' :: (inner ++ '}' :: after))
  | atBlock (head : AtRule) {children nodes : List Node} {inner after : Text}
      (inside : Written children inner) (more : Written nodes after) :
      Written (.atBlock head children :: nodes) (head.text ++ '{' :: (inner ++ '}' :: after))
  | atStatement (head : AtRule) {nodes : List Node} {after : Text} (more : Written nodes after) :
      Written (.atStatement head :: nodes) (head.text ++ ';' :: after)
  | declaration (declaration : Declaration) {word : Text} {nodes : List Node} {after : Text}
      (spelled : sameLetters word importantWord = true) (more : Written nodes after) :
      Written (.declaration declaration :: nodes) (declaration.text word ++ ';' :: after)
  | comment (comment : Comment) {nodes : List Node} {after : Text} (more : Written nodes after) :
      Written (.comment comment :: nodes) (comment.source ++ after)

theorem Written.append {nodes others : List Node} {s t : Text} (first : Written nodes s)
    (second : Written others t) : Written (nodes ++ others) (s ++ t) := by
  induction first with
  | nil => exact second
  | rule head inside _ _ ih => simpa using Written.rule head inside ih
  | atBlock head inside _ _ ih => simpa using Written.atBlock head inside ih
  | atStatement head _ ih => simpa using Written.atStatement head ih
  | declaration declaration spelled _ ih => simpa using Written.declaration declaration spelled ih
  | comment comment _ ih => simpa using Written.comment comment ih

mutual

/-- A node with the word of its important declarations in lower case. -/
def Node.render : Node → Text
  | .rule head children => head.selector ++ '{' :: (Node.renders children ++ ['}'])
  | .atBlock head children => head.text ++ '{' :: (Node.renders children ++ ['}'])
  | .atStatement head => head.text ++ [';']
  | .declaration d => d.text importantWord ++ [';']
  | .comment c => c.source

def Node.renders : List Node → Text
  | [] => []
  | node :: rest => node.render ++ Node.renders rest

end

def Sheet.render (sheet : Sheet) : Text := Node.renders sheet

mutual

theorem Node.written_render (node : Node) : Written [node] node.render := by
  cases node with
  | rule head children =>
      rw [Node.render]
      exact .rule head (Node.written_renders children) .nil
  | atBlock head children =>
      rw [Node.render]
      exact .atBlock head (Node.written_renders children) .nil
  | atStatement head =>
      rw [Node.render]
      exact .atStatement head .nil
  | declaration d =>
      rw [Node.render]
      exact .declaration d (by decide) .nil
  | comment c =>
      rw [Node.render, ← List.append_nil c.source]
      exact .comment c .nil

theorem Node.written_renders (nodes : List Node) : Written nodes (Node.renders nodes) := by
  cases nodes with
  | nil => exact .nil
  | cons node rest => exact (Node.written_render node).append (Node.written_renders rest)

end

/-! ### The mark of importance -/

theorem exists_of_beforeImportant? {t head : Text} (found : beforeImportant? t = some head) :
    ∃ before after word, AllBlank before ∧ AllBlank after ∧
      sameLetters word importantWord = true ∧ head ++ (before ++ '!' :: (after ++ word)) = t := by
  unfold beforeImportant? at found
  simp only at found
  split at found
  · rename_i ends
    simp only [Bool.and_eq_true, decide_eq_true_eq] at ends
    split at found
    · rename_i marked
      cases found
      obtain ⟨start, same⟩ := List.getLast?_eq_some_iff.mp marked
      obtain ⟨before, leading, first⟩ := exists_trimEnd start
      obtain ⟨after, trailing, second⟩ :=
        exists_trimEnd (t.take (t.length - importantWord.length))
      have lower : importantWord.map Char.toLower = importantWord := by decide
      refine ⟨before, after, t.drop (t.length - importantWord.length), leading, trailing,
        by simp [sameLetters, ends.2, lower], ?_⟩
      conv_rhs => rw [← List.take_append_drop (t.length - importantWord.length) t, ← second, same]
      rw [same, List.dropLast_concat, ← List.append_assoc, first]
      simp
    · cases found
  · cases found

theorem trimEnd_exclaimed (head : Text) {blanks : Text} (blank : AllBlank blanks) :
    trimEnd (head ++ ['!'] ++ blanks) = head ++ ['!'] := by
  apply trimEnd_of_blanks blank
  simp only [List.getLast?_concat, Option.mem_def, Option.some.injEq]
  rintro _ rfl
  decide

theorem beforeImportant?_append (head : Text) {after word : Text} (blank : AllBlank after)
    (spelled : sameLetters word importantWord = true) :
    beforeImportant? (head ++ '!' :: (after ++ word)) = some (trimEnd head) := by
  have lower : word.map Char.toLower = importantWord := eq_of_beq spelled
  have length : word.length = importantWord.length := by
    rw [← lower, List.length_map]
  have whole : head ++ '!' :: (after ++ word) = (head ++ ['!'] ++ after) ++ word := by simp
  have start : (head ++ '!' :: (after ++ word)).length - importantWord.length =
      (head ++ ['!'] ++ after).length := by
    rw [whole, List.length_append, length, Nat.add_sub_cancel]
  have fits : importantWord.length ≤ ((head ++ ['!'] ++ after) ++ word).length := by
    rw [List.length_append, length]
    exact Nat.le_add_left _ _
  simp only [beforeImportant?, start]
  rw [whole, List.drop_left, List.take_left, trimEnd_exclaimed head blank, lower]
  simp only [fits, decide_true, Bool.and_self, if_true, List.getLast?_concat,
    List.dropLast_concat]

end ClassLint
