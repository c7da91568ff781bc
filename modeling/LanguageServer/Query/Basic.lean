import LanguageServer.Workspace
import LanguageServer.Symbols.Table
import LanguageServer.Source.Import

/-!
# The word under the cursor

Hover and definition are about a word: the run of name parts, dots and attribute signs that the
cursor touches, be it before the first character, inside, or after the last one (`wordAround?`).

Both, and signature help, use the table of everything that the document sees (`Snapshot.table`).
-/

namespace LanguageServer

open Text

namespace Query

/-- The run of lookup characters around a place of a line, given as the text before the place and
the text after it. -/
def wordAround? (before after : List Char) : Option (List Char) :=
  let word := (before.reverse.takeWhile isLookupPart).reverse ++ after.takeWhile isLookupPart
  if word = [] then none else some word

/-- The run of lookup characters that a UTF-16 column of a line touches. -/
def wordAt? (line : List Char) (column : Nat) : Option (List Char) :=
  let place := columnChars column line
  wordAround? (line.take place) (line.drop place)

/-- The word that the position touches. -/
def word? (text : String) (position : Position) : Option String := do
  let line ← (lines text.toList)[position.line]?
  let word ← wordAt? line position.character
  some (String.ofList word)

end Query

/-- What the imports of the document stand for. -/
def Snapshot.imports (snapshot : Snapshot) : List ResolvedImport :=
  (Import.scan snapshot.text).map fun imp => imp.resolve snapshot.sources snapshot.directory

/-- The table of everything that the document sees. -/
def Snapshot.table (snapshot : Snapshot) : SymbolTable :=
  .merge snapshot.library snapshot.imports (Symbol.scan snapshot.text none .current)

end LanguageServer
