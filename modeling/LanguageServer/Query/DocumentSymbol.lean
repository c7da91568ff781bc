import LanguageServer.Query.Basic
import LanguageServer.Source.Outline

/-!
# Document symbols

The outline of a document with the stretch of text that each node covers: from the beginning of its
first line to the end of its last one.  What is selected for a node is its first line.
-/

namespace LanguageServer

open Text

/-- A node of the outline with the text that it covers. -/
structure DocumentSymbol where
  name : String
  detail : Option String
  kind : OutlineKind
  range : Range
  selection : Range
  children : List DocumentSymbol
deriving Repr

namespace DocumentSymbol

/-- The stretch from the beginning of one line to the end of another. -/
def lineRange (ls : List (List Char)) (start stop : Nat) : Range :=
  ⟨⟨start, 0⟩, ⟨stop, ((ls[stop]?).map unitLength).getD 0⟩⟩

mutual

/-- The symbol for a node of the outline of the given lines. -/
def ofNode (ls : List (List Char)) : OutlineNode → DocumentSymbol
  | ⟨name, kind, detail, start, stop, children⟩ =>
    { name
      detail := if detail = "" then none else some detail
      kind
      range := lineRange ls start stop
      selection := lineRange ls start start
      children := ofNodes ls children }

/-- The symbols for nodes of the outline of the given lines. -/
def ofNodes (ls : List (List Char)) : List OutlineNode → List DocumentSymbol
  | [] => []
  | node :: nodes => ofNode ls node :: ofNodes ls nodes

end

end DocumentSymbol

/-- The symbols of the document. -/
def Query.documentSymbols (snapshot : Snapshot) : List DocumentSymbol :=
  DocumentSymbol.ofNodes (lines snapshot.text.toList) (Outline.build snapshot.text)

end LanguageServer
