import LanguageServer.Text.Line

/-!
# Scrubbed source text

The scanners of this library look for words and brackets and must not find them in comments or in
string literals.  They therefore work on *scrubbed* text, in which a `//` comment and the contents
of a closed string literal are blanked out.

A line is read from left to right as *code*.  A quote in code opens a literal, which ends at the
next quote that no backslash escapes; the quotes stay, what lies between them is blanked.  A literal
with no closing quote on its line is not a literal: from its quote on the line is left as it is.
Two slashes in code start a comment, which is blanked to the end of the line, slashes included.

Each blanked character gives one space for every byte it takes, so scrubbed text has the byte
length of the text it came from and a byte offset found in the one can be used in the other.
-/

namespace LanguageServer.Source

open Text

/-- As many spaces as the text takes bytes. -/
def blanked (cs : List Char) : List Char :=
  List.replicate (byteLength cs) ' '

/-- Is a literal whose contents begin here closed on this line?  A backslash takes the character
after it along, whatever that is. -/
def closes : List Char → Bool
  | [] => false
  | '\\' :: _ :: cs => closes cs
  | c :: cs => c == '"' || closes cs

/-- Where a scan of a line stands: in code, or in a literal that is known to be closed. -/
inductive Region where
  | code
  | literal
deriving DecidableEq, Repr

/-- The scrubbed form of the rest of a line, for a scan that stands in the given region. -/
def scrubFrom : Region → List Char → List Char
  | _, [] => []
  | .code, '/' :: '/' :: cs => blanked ('/' :: '/' :: cs)
  | .code, '"' :: cs => if closes cs then '"' :: scrubFrom .literal cs else '"' :: cs
  | .code, c :: cs => c :: scrubFrom .code cs
  | .literal, '"' :: cs => '"' :: scrubFrom .code cs
  | .literal, '\\' :: c :: cs => blanked ['\\', c] ++ scrubFrom .literal cs
  | .literal, c :: cs => blanked [c] ++ scrubFrom .literal cs

/-- The line with its comment and the contents of its literals blanked out. -/
def scrubLine (line : List Char) : List Char :=
  scrubFrom .code line

/-- The text with every line scrubbed and every line terminator kept. -/
def scrub (text : List Char) : List Char :=
  (pieces text).flatMap fun piece =>
    scrubLine (splitTerminator piece).1 ++ (splitTerminator piece).2

end LanguageServer.Source
