import ClassLint.Decimal.Shortest
import ClassLint.Json.Value

/-! The text of a JSON value, on one line or indented. -/

namespace ClassLint

def JsonNumber.text : JsonNumber → Text
  | .natural n => decimal n
  | .negative n => '-' :: decimal n
  | .binary x => x.text

namespace Json

def hexCharacter (n : Nat) : Char := Char.ofNat (if n < 10 then 48 + n else 87 + n)

/-- Quotes, backslashes and control characters are escaped, and nothing else. -/
def escapeCharacter (c : Char) : Text :=
  match c with
  | '"' => "\\\""
  | '\\' => "\\\\"
  | '\n' => "\\n"
  | '\r' => "\\r"
  | '\t' => "\\t"
  | c =>
    if c.toNat = 8 then "\\b"
    else if c.toNat = 12 then "\\f"
    else if c.toNat < 32 then
      "\\u00" ++ [hexCharacter (c.toNat / 16), hexCharacter (c.toNat % 16)]
    else [c]

def quoted (t : Text) : Text := '"' :: t.flatMap escapeCharacter ++ ['"']

mutual

def compact : Json → Text
  | .null => "null"
  | .bool true => "true"
  | .bool false => "false"
  | .number n => n.text
  | .string t => quoted t
  | .array items => '[' :: compactItems items ++ [']']
  | .object members => '{' :: compactMembers members ++ ['}']

def compactItems : List Json → Text
  | [] => []
  | [item] => item.compact
  | item :: items => item.compact ++ ',' :: compactItems items

def compactMembers : List (Text × Json) → Text
  | [] => []
  | [(key, value)] => quoted key ++ ':' :: value.compact
  | (key, value) :: members => quoted key ++ ':' :: value.compact ++ ',' :: compactMembers members

end

def newline (level : Nat) : Text := '\n' :: List.replicate (2 * level) ' '

mutual

/-- The text with each item and member on a line of its own, two blanks deeper than its parent. -/
def pretty (level : Nat) : Json → Text
  | .array [] => "[]"
  | .object [] => "\x7b\x7d"
  | .array items => '[' :: prettyItems (level + 1) items ++ newline level ++ [']']
  | .object members => '{' :: prettyMembers (level + 1) members ++ newline level ++ ['}']
  | .null => "null"
  | .bool true => "true"
  | .bool false => "false"
  | .number n => n.text
  | .string t => quoted t

def prettyItems (level : Nat) : List Json → Text
  | [] => []
  | [item] => newline level ++ item.pretty level
  | item :: items => newline level ++ item.pretty level ++ ',' :: prettyItems level items

def prettyMembers (level : Nat) : List (Text × Json) → Text
  | [] => []
  | [(key, value)] => newline level ++ quoted key ++ ':' :: ' ' :: value.pretty level
  | (key, value) :: members =>
    newline level ++ quoted key ++ ':' :: ' ' :: value.pretty level ++
      ',' :: prettyMembers level members

end

end Json

end ClassLint
