import LanguageServer.Query.Basic
import LanguageServer.Source.Declaration

/-!
# Go to definition

The definition of a plain word is the line of the document that declares a function of this name.
A dotted word names a function of a module: what stands before the first dot is the binding of an
import, the next segment is the function.  The file of the module is searched; the standard library
has no source to go to.  When no import has the binding, or no file is found for it, the document
itself is searched for the function.
-/

namespace LanguageServer

open Text

/-- A line of a document. -/
structure Definition where
  address : Address
  line : Nat
deriving DecidableEq, Repr

namespace Query

/-- The line of the document itself that declares the function. -/
def definitionHere? (snapshot : Snapshot) (name : String) : Option Definition :=
  (FunctionLine.findIn? snapshot.text name).map fun line => ⟨snapshot.address, line⟩

/-- The line of the file that declares the function. -/
def definitionIn? (snapshot : Snapshot) (path : Path) (name : String) : Option Definition := do
  let text ← snapshot.sources.read? path
  let address ← Address.ofPath? path
  let line ← FunctionLine.findIn? text name
  some ⟨address, line⟩

/-- The definition of a function of the module that the binding refers to. -/
def definitionOf? (snapshot : Snapshot) (binding name : String) : Option Definition :=
  match Import.find? (Import.scan snapshot.text) binding with
  | none => definitionHere? snapshot name
  | some imp =>
    if imp.isStandard then none
    else match snapshot.directory with
      | none => none
      | some directory =>
        match imp.locate? snapshot.sources directory with
        | none => definitionHere? snapshot name
        | some path => definitionIn? snapshot path name

/-- The definition of a word. -/
def definitionWord? (snapshot : Snapshot) (word : String) : Option Definition :=
  match splitOn '.' word.toList with
  | binding :: name :: _ =>
    definitionOf? snapshot (String.ofList binding) (String.ofList name)
  | _ => definitionHere? snapshot word

/-- The definition of the word at a position. -/
def definition? (snapshot : Snapshot) (position : Position) : Option Definition :=
  (word? snapshot.text position).bind (definitionWord? snapshot)

end Query

end LanguageServer
