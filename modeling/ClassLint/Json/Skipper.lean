import ClassLint.Json.Reader

/-! Passing over a value that is not wanted. It is read with less care: nesting, the range of
numbers and the pairing of surrogates are not checked, and a number cut off by the end of the text
counts as malformed. -/

namespace ClassLint.Json

def skipEscape : Text → Except JsonFault Text
  | [] => .error .ended
  | 'u' :: rest => (readUnit rest).map Prod.snd
  | c :: rest =>
    match c with
    | '"' | '\\' | '/' | 'b' | 'f' | 'n' | 'r' | 't' => .ok rest
    | _ => .error .malformed

theorem skipEscape_shorter {t rest : Text} (read : skipEscape t = .ok rest) :
    rest.length < t.length := by
  unfold skipEscape at read
  split at read
  · simp at read
  · obtain ⟨⟨unit, tail⟩, found, rfl⟩ := exists_of_map_eq_ok read
    have := readUnit_shorter found
    simp
    omega
  · grind

def skipString (t : Text) : Except JsonFault Text :=
  match t with
  | [] => .error .ended
  | '"' :: rest => .ok rest
  | '\\' :: rest =>
    match read : skipEscape rest with
    | .error fault => .error fault
    | .ok after =>
      have := skipEscape_shorter read
      skipString after
  | c :: rest => if c.toNat < 32 then .error .malformed else skipString rest
termination_by t.length
decreasing_by all_goals simp_all; try omega

def skipNumber (t : Text) : Except JsonFault Text :=
  match readLiteral t with
  | .ok (_, rest) => .ok rest
  | .error _ => .error .malformed

def skipScalar (t : Text) : Except JsonFault Text :=
  match t with
  | '"' :: rest => skipString rest
  | '-' :: rest => skipNumber rest
  | c :: rest => if c.isDigit then skipNumber (c :: rest) else (readScalar t).map Prod.snd
  | [] => .error .ended

mutual

def skipValue (fuel : Nat) (t : Text) : Except JsonFault Text :=
  match fuel with
  | 0 => .error .malformed
  | fuel + 1 =>
    match skipGaps t with
    | '[' :: rest => skipItems fuel true rest
    | '{' :: rest => skipMembers fuel true rest
    | t => skipScalar t

def skipItems (fuel : Nat) (first : Bool) (t : Text) : Except JsonFault Text :=
  match fuel with
  | 0 => .error .malformed
  | fuel + 1 => do
    match ← nextItem? ']' first t with
    | none => return (skipGaps t).tail
    | some t => skipItems fuel false (← skipValue fuel t)

def skipMembers (fuel : Nat) (first : Bool) (t : Text) : Except JsonFault Text :=
  match fuel with
  | 0 => .error .malformed
  | fuel + 1 => do
    match ← nextItem? '}' first t with
    | none => return (skipGaps t).tail
    | some t =>
      match t with
      | '"' :: rest => skipMembers fuel false (← skipValue fuel (← readColon (← skipString rest)))
      | t => throw (faultAt t)

end

end ClassLint.Json
