import ClassLint.Level
import ClassLint.Proofs.Segments

/-! Levels of a selector, and what is left of them when tokens that are no combinators are taken
out. -/

namespace ClassLint

open Segment

def Level.filter (keep : Token → Bool) (level : Level) : Level := ⟨level.tokens.filter keep⟩

theorem lastCompound_eq (tokens : List Token) :
    lastCompound tokens = ⟨((parts Token.joins tokens).getLast?.bind Segment.run?).getD []⟩ := by
  cases tokens with
  | nil => rfl
  | cons token rest => rw [lastCompound, splitBy_eq_parts (List.cons_ne_nil token rest)]

/-- The levels of some tokens, where no tokens are one empty level. -/
def levelsIn (tokens : List Token) : List Level :=
  ((parts Token.descends tokens).filterMap Segment.run?).map lastCompound

theorem levels_eq_levelsIn {selector : Selector} (nonempty : selector.tokens ≠ []) :
    selector.levels = levelsIn selector.tokens := by
  rw [Selector.levels, splitBy_eq_parts nonempty, levelsIn]

theorem joins_eq_false {token : Token} (plain : token.combinator? = none) : token.joins = false := by
  rw [Token.joins, plain]
  rfl

theorem joins_of_descends {token : Token} (descends : token.descends = true) :
    token.joins = true := by
  rw [Token.joins]
  rw [Token.descends] at descends
  split at descends <;> simp_all

theorem levelsIn_append_descends {token : Token} (descends : token.descends = true)
    (front back : List Token) :
    levelsIn (front ++ token :: back) = levelsIn front ++ levelsIn back := by
  rw [levelsIn, parts_append_separator front back descends, List.filterMap_append, List.map_append]
  rfl

section Filtering

variable {keep : Token → Bool} (kept : ∀ token : Token, token.joins = true → keep token = true)
include kept

theorem lastCompound_filter (tokens : List Token) :
    lastCompound (tokens.filter keep) = (lastCompound tokens).filter keep := by
  rw [lastCompound_eq, lastCompound_eq, parts_filter kept, List.getLast?_map, Level.filter]
  cases (parts Token.joins tokens).getLast? with
  | none => rfl
  | some segment => cases segment <;> rfl

theorem levelsIn_filter (tokens : List Token) :
    levelsIn (tokens.filter keep) = (levelsIn tokens).map (Level.filter keep) := by
  have stays (token : Token) (descends : token.descends = true) : keep token = true :=
    kept token (joins_of_descends descends)
  rw [levelsIn, levelsIn, parts_filter stays, List.filterMap_map, List.map_map,
    List.map_filterMap, List.map_filterMap]
  apply congrArg (List.filterMap · _)
  funext segment
  cases segment with
  | separator token => rfl
  | run tokens => exact congrArg some (lastCompound_filter kept tokens)

end Filtering

end ClassLint
