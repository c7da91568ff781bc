import LanguageServer.Text.Class

/-!
# Finding what a reader reads

Declarations are recognised by *readers*: functions that try to read something at the beginning of
a text and, when they can, return it with the text that is left.  This file holds the readers for
keywords, blanks and names that all declarations share, and `findAll`, which applies a reader
throughout a text.

`findAll` goes from left to right.  At each place it asks the reader; what the reader takes is
passed over as a whole, so finds never overlap, and an earlier find wins over a later one.  A
condition on the character before the place says where a find may start at all: most declarations
begin with a keyword, which must not be the tail of a longer word (`wordStart`).
-/

namespace LanguageServer.Source

open Text

/-- A reader returns what it could read at the beginning of a text, and the rest. -/
abbrev Reader (α : Type) := List Char → Option (α × List Char)

/-- Something found in a text, with the text before it. -/
structure Found (α : Type) where
  before : List Char
  value : α

variable {α : Type}

/-! ## Small readers -/

/-- What is left of the text after the given word, if it begins with that word. -/
def strip? : List Char → List Char → Option (List Char)
  | [], cs => some cs
  | _ :: _, [] => none
  | w :: ws, c :: cs => if w = c then strip? ws cs else none

/-- What is left of the text after the blanks at its beginning. -/
def skipBlanks (cs : List Char) : List Char :=
  cs.dropWhile isBlank

/-- What is left of the text after its blanks, of which there must be at least one. -/
def skipBlanks1? : List Char → Option (List Char)
  | [] => none
  | c :: cs => if isBlank c then some (skipBlanks cs) else none

/-- Reads a name whose characters after the first are of the class `part`. -/
def name? (part : Char → Bool) : Reader (List Char)
  | [] => none
  | c :: cs => if isNameStart c then some (c :: cs.takeWhile part, cs.dropWhile part) else none

/-! ## Application throughout a text -/

/-- May a word start after the given character, which is none at the beginning of a text? -/
def wordStart : Option Char → Bool
  | none => true
  | some c => !isWord c

/-- The finds in the rest of a text.  `seen` is the text before the rest, last character first, and
the next `skip` characters belong to a find already made. -/
def findAllFrom (starts : Option Char → Bool) (read : Reader α) :
    List Char → Nat → List Char → List (Found α)
  | _, _, [] => []
  | seen, skip + 1, c :: cs => findAllFrom starts read (c :: seen) skip cs
  | seen, 0, c :: cs =>
    match if starts seen.head? then read (c :: cs) else none with
    | some (value, rest) =>
      ⟨seen.reverse, value⟩ :: findAllFrom starts read (c :: seen) (cs.length - rest.length) cs
    | none => findAllFrom starts read (c :: seen) 0 cs

/-- Everything that the reader finds in the text, from left to right and without overlap, starting
only after characters that `starts` admits. -/
def findAll (starts : Option Char → Bool) (read : Reader α) (text : List Char) : List (Found α) :=
  findAllFrom starts read [] 0 text

end LanguageServer.Source
