import LanguageServer.File.Tree

/-!
# Source files, saved and unsaved

While a document is open in an editor its text is what the editor holds, saved or not.  `Sources` is
a file tree with the texts of open documents laid over it: where a document is open, its text is
read and its file counts as existing, and everywhere else the file tree is asked.

Paths are compared by their components.
-/

namespace LanguageServer

/-- A file tree with the texts of open documents laid over it.  Of several documents at one path the
last counts. -/
structure Sources where
  files : FileTree
  opened : List (Path × String)

namespace Sources

/-- The text of the document that is open at the path. -/
def openText? (sources : Sources) (path : Path) : Option String :=
  (sources.opened.reverse.find? fun entry => entry.1.same path).map (·.2)

/-- Is a document open at the path? -/
def isOpen (sources : Sources) (path : Path) : Bool :=
  (sources.openText? path).isSome

/-- Is there a document or a file at the path? -/
def holds (sources : Sources) (path : Path) : Bool :=
  sources.isOpen path || sources.files.isFile path

/-- The text at the path: that of the open document, or else that of the file. -/
def read? (sources : Sources) (path : Path) : Option String :=
  (sources.openText? path).or (sources.files.readText? path)

end Sources

end LanguageServer
