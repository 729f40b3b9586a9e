import ClassLint.Regex.Footprint
import ClassLint.Regex.Mode

/-! From a pattern to a program. -/

namespace ClassLint.Regex

/-- The program of a pattern, unless the pattern cannot be read or would grow too large. -/
def compile? (pattern : Text) : Option Program := do
  let expr ← parse? pattern
  let (program, _) ← expr.program? .start
  if program.fits then some program else none

end ClassLint.Regex
