import ClassLint.Text.Raw

/-! The two dialects of stylesheets. -/

namespace ClassLint

/-- The second dialect adds line comments and interpolation. -/
inductive Dialect where
  | css
  | scss
  deriving DecidableEq, Repr

namespace Dialect

def name : Dialect → Text
  | .css => "css"
  | .scss => "scss"

def ofName? (t : Text) : Option Dialect :=
  if sameLetters t "css" then some .css
  else if sameLetters t "scss" then some .scss
  else none

def fileName? (path : RawText) : Option RawText :=
  match path.names.getLast? with
  | some name => if name = ".." then none else some name
  | none => none

/-- What follows the last dot of a file name; a dot in front does not count. -/
def extension? (file : RawText) : Option RawText :=
  match (fields RawText.dot file.bytes).reverse with
  | last :: earlier => if earlier = [] || earlier = [[]] then none else some ⟨last⟩
  | [] => none

def ofPath (path : RawText) : Dialect :=
  match ((fileName? path).bind extension?).bind RawText.text? with
  | some extension => if sameLetters extension "scss" then .scss else .css
  | none => .css

end Dialect

end ClassLint
