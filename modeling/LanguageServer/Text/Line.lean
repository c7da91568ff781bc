import LanguageServer.Text.Measure

/-!
# Lines and positions

Two notions of line are in use.

Requests look at *query lines*.  A query line ends with a line feed and with nothing else.  In
`pieces` every line carries its terminator, and a text that ends with a line feed has no further
line; in `lines` the line feed, and one carriage return before it, are removed.

Edits address *edit lines*.  An edit line ends with any of the line breaks of the character
standard: line feed, carriage return, the two of them together, vertical tab, form feed, next line,
line separator and paragraph separator.  Every edit line carries its terminator, and a text that
ends with a break has one more line, which is empty.

A `Position` is a line number with a UTF-16 column.  `Position.byteOffset` reads it on query lines,
`Position.editOffset` on edit lines; the first counts bytes, the second characters.
-/

namespace LanguageServer

namespace Text

/-! ## Query lines -/

/-- The text cut after every line feed. -/
def pieces : List Char → List (List Char)
  | [] => []
  | c :: cs =>
    if c = '\n' then [c] :: pieces cs
    else match pieces cs with
      | [] => [[c]]
      | p :: ps => (c :: p) :: ps

/-- The end of a piece that is not content: a line feed with the carriage return before it, a line
feed alone, or nothing.  Returns the content and that end. -/
def splitTerminator : List Char → List Char × List Char
  | [] => ([], [])
  | ['\r', '\n'] => ([], ['\r', '\n'])
  | ['\n'] => ([], ['\n'])
  | c :: cs =>
    let (body, terminator) := splitTerminator cs
    (c :: body, terminator)

/-- The query lines of the text, without their terminators. -/
def lines (cs : List Char) : List (List Char) :=
  (pieces cs).map fun piece => (splitTerminator piece).1

/-- The number of line feeds in the text. -/
def lineFeeds (cs : List Char) : Nat :=
  cs.count '\n'

/-- The line without any line feeds and carriage returns at its end. -/
def withoutBreaks (cs : List Char) : List Char :=
  (cs.reverse.dropWhile fun c => c == '\n' || c == '\r').reverse

/-! ## Edit lines -/

/-- Does the character end an edit line? -/
def isBreak (c : Char) : Bool :=
  c == '\n' || c == '\r' || c == '\x0b' || c == '\x0c' || c == '\u0085' || c == '\u2028' ||
    c == '\u2029'

/-- The text cut after every line break; there is always at least one line. -/
def editLines : List Char → List (List Char)
  | [] => [[]]
  | '\r' :: '\n' :: cs => ['\r', '\n'] :: editLines cs
  | c :: cs =>
    if isBreak c then [c] :: editLines cs
    else match editLines cs with
      | [] => [[c]]
      | l :: ls => (c :: l) :: ls

/-- Nothing is lost or moved when a text is cut into pieces. -/
theorem flatten_pieces (cs : List Char) : (pieces cs).flatten = cs := by
  induction cs with
  | nil => rfl
  | cons c cs ih =>
    rw [pieces]
    split
    · simp [ih]
    · split
      next h => simpa [h] using ih
      next p ps h => simpa [h] using ih

/-- A piece is its content followed by its terminator. -/
theorem splitTerminator_append (cs : List Char) :
    (splitTerminator cs).1 ++ (splitTerminator cs).2 = cs := by
  fun_induction splitTerminator cs with
  | case1 => rfl
  | case2 => rfl
  | case3 => rfl
  | case4 c cs _ _ body terminator h ih => simpa [h] using ih

end Text

/-! ## Positions -/

/-- A place in a text: a line number and a column in UTF-16 units, both counted from zero. -/
structure Position where
  line : Nat
  character : Nat
deriving DecidableEq, Repr

namespace Position

open Text

/-- The byte offset of a position on the pieces of a text that are still ahead, when `offset` bytes
and `line` pieces less than asked lie before them. -/
def byteOffsetIn (column : Nat) : Nat → Nat → List (List Char) → Nat
  | offset, _, [] => offset
  | offset, 0, piece :: _ => offset + columnBytes column (withoutBreaks piece)
  | offset, line + 1, piece :: rest => byteOffsetIn column (offset + byteLength piece) line rest

/-- The byte offset that a position denotes on query lines.  A column past the content of its line
denotes the end of the content, and a line past the end of the text the end of the text. -/
def byteOffset (text : List Char) (position : Position) : Nat :=
  byteOffsetIn position.character 0 position.line (pieces text)

/-- The number of characters before a position on edit lines.  A line past the end of the text is
read as the last line, and a column past the end of its line as the end of the line, terminator
included. -/
def editOffset (text : List Char) (position : Position) : Nat :=
  let ls := editLines text
  let line := min position.line (ls.length - 1)
  (ls.take line).flatten.length + columnChars position.character (ls.getD line [])

end Position

/-- A stretch of text between two positions. -/
structure Range where
  start : Position
  stop : Position
deriving DecidableEq, Repr

end LanguageServer
