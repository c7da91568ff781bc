/-!
# Measures of text

Text is held as a list of characters.  Editors and scanners measure it in three units: characters,
bytes of its UTF-8 form, and 16-bit units of its UTF-16 form.  This file defines the last two, the
cut of a text at a byte offset, and the conversion of a UTF-16 column to the other two units.

A column may point into the middle of a character that takes two 16-bit units, or past the end of
the line.  In both cases it is read as the first character boundary at or after it, and as the end
of the line when there is none (`columnChars`, `columnBytes`).
-/

namespace LanguageServer.Text

/-! ## Bytes -/

/-- The number of bytes that the text takes in UTF-8. -/
def byteLength : List Char → Nat
  | [] => 0
  | c :: cs => c.utf8Size + byteLength cs

/-- The longest beginning of the text that takes at most `n` bytes. -/
def takeBytes : Nat → List Char → List Char
  | _, [] => []
  | n, c :: cs => if c.utf8Size ≤ n then c :: takeBytes (n - c.utf8Size) cs else []

/-- What is left of the text after its longest beginning of at most `n` bytes. -/
def dropBytes : Nat → List Char → List Char
  | _, [] => []
  | n, c :: cs => if c.utf8Size ≤ n then dropBytes (n - c.utf8Size) cs else c :: cs

/-- The part of the text between the byte offsets `start` and `stop`. -/
def sliceBytes (start stop : Nat) (cs : List Char) : List Char :=
  takeBytes (stop - start) (dropBytes start cs)

@[simp] theorem byteLength_nil : byteLength [] = 0 := rfl

@[simp] theorem byteLength_cons (c : Char) (cs : List Char) :
    byteLength (c :: cs) = c.utf8Size + byteLength cs := rfl

@[simp] theorem byteLength_append (cs ds : List Char) :
    byteLength (cs ++ ds) = byteLength cs + byteLength ds := by
  induction cs with
  | nil => simp
  | cons c cs ih => simp [ih, Nat.add_assoc]

/-- A cut loses nothing. -/
theorem takeBytes_append_dropBytes (n : Nat) (cs : List Char) :
    takeBytes n cs ++ dropBytes n cs = cs := by
  induction cs generalizing n with
  | nil => rfl
  | cons c cs ih =>
    by_cases h : c.utf8Size ≤ n
    · simp [takeBytes, dropBytes, h, ih]
    · simp [takeBytes, dropBytes, h]

/-! ## UTF-16 units -/

/-- The number of 16-bit units that the character takes in UTF-16. -/
def charUnits (c : Char) : Nat :=
  if c.toNat < 0x10000 then 1 else 2

/-- The number of 16-bit units that the text takes in UTF-16. -/
def unitLength : List Char → Nat
  | [] => 0
  | c :: cs => charUnits c + unitLength cs

/-- The number of characters before the UTF-16 column. -/
def columnChars : Nat → List Char → Nat
  | _, [] => 0
  | 0, _ :: _ => 0
  | column + 1, c :: cs => 1 + columnChars (column + 1 - charUnits c) cs

/-- The number of bytes before the UTF-16 column. -/
def columnBytes : Nat → List Char → Nat
  | _, [] => 0
  | 0, _ :: _ => 0
  | column + 1, c :: cs => c.utf8Size + columnBytes (column + 1 - charUnits c) cs

end LanguageServer.Text
