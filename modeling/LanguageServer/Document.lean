import LanguageServer.Text.Line

/-!
# Open documents

A document is the text that an editor holds, with the version that the editor gave it when it was
opened and the number of changes since.

A change either replaces the whole text or a stretch of it.  The stretch is given by positions on
edit lines, which may lie anywhere: both are read as places inside the text, and a stretch that ends
before it starts is empty and lies at its start (`Change.apply`).
-/

namespace LanguageServer

open Text

/-- A change of a text: the new text, in the place of a range or of the whole. -/
structure Change where
  range : Option Range
  text : String
deriving DecidableEq, Repr

namespace Change

/-- Replaces the characters from `start` on and before `stop`. -/
def splice (start stop : Nat) (replacement text : List Char) : List Char :=
  text.take start ++ replacement ++ text.drop (max start stop)

/-- The text after the change. -/
def apply (change : Change) (text : List Char) : List Char :=
  match change.range with
  | none => change.text.toList
  | some range =>
    splice (range.start.editOffset text) (range.stop.editOffset text) change.text.toList text

end Change

/-- An open document. -/
structure Document where
  text : String
  /-- The version that the editor gave when the document was opened. -/
  version : Option Int
  /-- The number of changes since the document was opened. -/
  revision : Nat
deriving DecidableEq, Repr

namespace Document

/-- A document that has just been opened. -/
def opened (text : String) (version : Option Int) : Document :=
  ⟨text, version, 0⟩

/-- The document after a change. -/
def apply (document : Document) (change : Change) : Document :=
  { document with
    text := String.ofList (change.apply document.text.toList)
    revision := document.revision + 1 }

/-- The number of edit lines of the document. -/
def lineCount (document : Document) : Nat :=
  (editLines document.text.toList).length

end Document

end LanguageServer
