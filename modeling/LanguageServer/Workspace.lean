import LanguageServer.Address.File
import LanguageServer.Document
import LanguageServer.File.Sources
import LanguageServer.Library.Basic

/-!
# The open documents of an editor

A workspace holds the open documents by their addresses.  Changes to a document that is not open are
ignored.

A query about a document is answered from a `Snapshot`: the text of the document, where it lies, and
the sources around it.  The sources show the open documents of the same directory with their unsaved
texts, and the file tree everywhere else.
-/

namespace LanguageServer

/-- The open documents. -/
structure Workspace where
  documents : List (Address × Document)
deriving DecidableEq, Repr

/-- What a query about a document may look at. -/
structure Snapshot where
  address : Address
  text : String
  /-- The path of the document, when it is a file. -/
  path : Option Path
  library : Library
  sources : Sources

/-- The directory of the document, where the modules that it imports are looked for. -/
def Snapshot.directory (snapshot : Snapshot) : Option Path :=
  snapshot.path.bind Path.parent?

namespace Workspace

/-- The workspace without documents. -/
def empty : Workspace := ⟨[]⟩

/-- The document at the address. -/
def get? (workspace : Workspace) (address : Address) : Option Document :=
  (workspace.documents.find? (·.1 = address)).map (·.2)

/-- Closes the document at the address. -/
def close (workspace : Workspace) (address : Address) : Workspace :=
  ⟨workspace.documents.filter (·.1 ≠ address)⟩

/-- Opens a document, in the place of one that is open at the address. -/
def openDocument (workspace : Workspace) (address : Address) (text : String)
    (version : Option Int) : Workspace :=
  ⟨(address, .opened text version) :: (workspace.close address).documents⟩

/-- Changes the document at the address, if one is open there. -/
def change (workspace : Workspace) (address : Address) (change : Change) : Workspace :=
  ⟨workspace.documents.map fun (key, document) =>
    (key, if key = address then document.apply change else document)⟩

/-- Gives the document at the address a version, if one is open there. -/
def setVersion (workspace : Workspace) (address : Address) (version : Int) : Workspace :=
  ⟨workspace.documents.map fun (key, document) =>
    (key, if key = address then { document with version := some version } else document)⟩

/-- Do the paths lie in the same directory? -/
def sameDirectory (p q : Option Path) : Bool :=
  match p, q with
  | some p, some q => p.same q
  | none, none => true
  | _, _ => false

/-- The texts of the open documents that are files of the directory. -/
def siblings (workspace : Workspace) (directory : Option Path) : List (Path × String) :=
  workspace.documents.filterMap fun (address, document) => do
    let path ← address.path?
    if sameDirectory path.parent? directory then some (path, document.text) else none

/-- What a query about the document at the address may look at; nothing when it is not open. -/
def snapshot? (workspace : Workspace) (library : Library) (files : FileTree) (address : Address) :
    Option Snapshot := do
  let document ← workspace.get? address
  let path := address.path?
  some
    { address, text := document.text, path, library
      sources := ⟨files, workspace.siblings (path.bind Path.parent?)⟩ }

end Workspace

end LanguageServer
