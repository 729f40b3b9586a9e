import ClassLint.Text.Basic

/-! The text of a block comment. -/

namespace ClassLint

/-- The text up to the first `*/`, and what follows that. -/
def takeComment : Text → Option Taken
  | [] => none
  | '*' :: '/' :: rest => some ([], rest)
  | c :: rest => (takeComment rest).map (Taken.push c)

theorem takeComment_append {t : Text} {taken : Taken} (read : takeComment t = some taken) :
    taken.1 ++ '*' :: '/' :: taken.2 = t := by
  fun_induction takeComment t generalizing taken
  case case1 => simp at read
  case case2 =>
    injection read with same
    simp [← same]
  case case3 c rest _ ih =>
    obtain ⟨inner, tail, rfl⟩ := Option.map_eq_some_iff.1 read
    simp [Taken.push, ih tail]

end ClassLint
