/-!
# Bytes as text

The UTF-8 form of a text, and a reading of bytes that never fails.  Bytes that are no UTF-8 are read
as replacement characters, one for every longest run of bytes that could have begun a character and
one for every byte that could not.

The reader goes through the bytes once.  Between two bytes it remembers the character that is still
incomplete, if there is one (`Incomplete`).
-/

namespace LanguageServer.Text

/-- The bytes of the text. -/
def encode (cs : List Char) : List UInt8 :=
  cs.flatMap String.utf8EncodeChar

/-- The character that stands for bytes that are no text. -/
def replacement : Char := '�'

/-- A character of which some bytes are still to come.  The next byte has to lie in the given
range; the bounds exclude overlong forms, surrogates and values that are no characters. -/
structure Incomplete where
  /-- How many bytes are missing. -/
  missing : Nat
  low : Nat
  high : Nat
  /-- The bits read so far. -/
  bits : Nat

/-- What a byte means at the beginning of a character. -/
inductive Lead where
  | whole (c : Char)
  | begins (character : Incomplete)
  | invalid

/-- The meaning of a byte at the beginning of a character. -/
def lead (b : Nat) : Lead :=
  if b < 0x80 then .whole (Char.ofNat b)
  else if b < 0xC2 then .invalid
  else if b < 0xE0 then .begins ⟨1, 0x80, 0xBF, b - 0xC0⟩
  else if b = 0xE0 then .begins ⟨2, 0xA0, 0xBF, 0⟩
  else if b = 0xED then .begins ⟨2, 0x80, 0x9F, 0xD⟩
  else if b < 0xF0 then .begins ⟨2, 0x80, 0xBF, b - 0xE0⟩
  else if b = 0xF0 then .begins ⟨3, 0x90, 0xBF, 0⟩
  else if b < 0xF4 then .begins ⟨3, 0x80, 0xBF, b - 0xF0⟩
  else if b = 0xF4 then .begins ⟨3, 0x80, 0x8F, 4⟩
  else .invalid

/-- Reads bytes as text, with an incomplete character before them. -/
def decodeFrom : Option Incomplete → List UInt8 → List Char
  | none, [] => []
  | some _, [] => [replacement]
  | none, b :: bs =>
    match lead b.toNat with
    | .whole c => c :: decodeFrom none bs
    | .begins character => decodeFrom (some character) bs
    | .invalid => replacement :: decodeFrom none bs
  | some character, b :: bs =>
    let b := b.toNat
    if character.low ≤ b && b ≤ character.high then
      let bits := character.bits * 64 + (b - 0x80)
      if character.missing ≤ 1 then Char.ofNat bits :: decodeFrom none bs
      else decodeFrom (some ⟨character.missing - 1, 0x80, 0xBF, bits⟩) bs
    else
      replacement ::
        match lead b with
        | .whole c => c :: decodeFrom none bs
        | .begins character => decodeFrom (some character) bs
        | .invalid => replacement :: decodeFrom none bs

/-- The bytes as text, with replacement characters for what is no text. -/
def decode (bytes : List UInt8) : List Char :=
  decodeFrom none bytes

end LanguageServer.Text
