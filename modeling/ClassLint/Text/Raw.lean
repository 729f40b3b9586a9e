import ClassLint.Text.Basic

/-! Text as the system hands it over: bytes, which need not be the encoding of any text. -/

namespace ClassLint

structure RawText where
  bytes : List UInt8
  deriving DecidableEq, Repr

/-- Where a decoder stands: between characters, or inside one. Inside it knows the value of the bytes
so far, how many bytes come after the next one, and the bounds of the next. -/
inductive Decoder where
  | between
  | inside (value more least greatest : Nat)
  deriving DecidableEq, Repr

namespace Decoder

/-- What the first byte of a character gives at once, and where it leaves the decoder. The bounds
after some first bytes leave out surrogates, what is beyond the last character, and characters that
have a shorter encoding. -/
def start (byte : Nat) : List (Option Char) × Decoder :=
  if byte < 0x80 then ([some (Char.ofNat byte)], .between)
  else if byte < 0xC2 then ([none], .between)
  else if byte < 0xE0 then ([], .inside (byte % 0x20) 0 0x80 0xBF)
  else if byte < 0xF0 then
    ([], .inside (byte % 0x10) 1 (if byte = 0xE0 then 0xA0 else 0x80)
      (if byte = 0xED then 0x9F else 0xBF))
  else if byte < 0xF5 then
    ([], .inside (byte % 8) 2 (if byte = 0xF0 then 0x90 else 0x80)
      (if byte = 0xF4 then 0x8F else 0xBF))
  else ([none], .between)

/-- A byte that does not go on with a character breaks it off, and may start the next. -/
def step : Decoder → Nat → List (Option Char) × Decoder
  | .between, byte => start byte
  | .inside value more least greatest, byte =>
    if least ≤ byte ∧ byte ≤ greatest then
      match more with
      | 0 => ([some (Char.ofNat (value * 0x40 + byte % 0x40))], .between)
      | more + 1 => ([], .inside (value * 0x40 + byte % 0x40) more 0x80 0xBF)
    else (none :: (start byte).1, (start byte).2)

/-- The characters of bytes, with none for each run of bytes that breaks off. -/
def run : Decoder → List UInt8 → List (Option Char)
  | .between, [] => []
  | .inside .., [] => [none]
  | decoder, byte :: rest =>
    (decoder.step byte.toNat).1 ++ run (decoder.step byte.toNat).2 rest

end Decoder

namespace RawText

def ofText (t : Text) : RawText := ⟨t.flatMap String.utf8EncodeChar⟩

instance : Coe Text RawText := ⟨ofText⟩

instance : Coe (List Text) (List RawText) := ⟨List.map ofText⟩

def decoded (raw : RawText) : List (Option Char) := Decoder.run .between raw.bytes

def text? (raw : RawText) : Option Text := raw.decoded.mapM id

/-- The text with a replacement character for each run of bytes that breaks off. -/
def display (raw : RawText) : Text := raw.decoded.map (·.getD '\uFFFD')

@[match_pattern] def slash : UInt8 := 0x2F

@[match_pattern] def dot : UInt8 := 0x2E

/-- The names in a path. A single dot and a repeated slash lead nowhere. -/
def names (path : RawText) : List RawText :=
  ((fields slash path.bytes).filter fun name => name != [] && name != [dot]).map RawText.mk

end RawText

end ClassLint
