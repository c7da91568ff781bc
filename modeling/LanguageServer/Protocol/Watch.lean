import LanguageServer.Session
import LanguageServer.Source.Import

/-!
# The files that matter

The server looks at few files: those that may belong to the imports of the open documents, and those
of the toolchain.  `Session.watched` lists their paths, so that a caller can present the real file
system to the server as a tree of these files (`FileTree.ofFiles`).
-/

namespace LanguageServer

/-- The tree that holds the given files, with all the directories that lead to them. -/
def FileTree.ofFiles (files : List (Path × Content)) : FileTree :=
  files.foldl (fun tree (path, content) =>
      let made := (path.parent?.map fun directory => (tree.makeDirectories directory).1).getD tree
      (made.write path content).toOption.getD made)
    .empty

namespace Session

/-- The paths of the files that the imports of a document may stand for. -/
def importPaths (address : Address) (document : Document) : List Path :=
  match address.path?.bind Path.parent? with
  | none => []
  | some directory =>
    ((Import.scan document.text).map fun imp => imp.candidates.map directory.join).flatten

/-- The paths of the files that the server may look at. -/
def watched (session : Session) (machine : Machine) : List Path :=
  let toolchain := session.toolchain machine
  (session.workspace.documents.map fun (address, document) =>
    importPaths address document).flatten ++
    [toolchain.binary, toolchain.managed, InstallState.file toolchain.storage]

end Session

/-- The directory for compilers, by the variables of the environment that tell the data directory
and the home directory of the user. -/
def Machine.storageDirectory (dataHome home : Option String) : Path :=
  match dataHome.filter fun text => (Path.ofText text).isAbsolute with
  | some directory => (Path.ofText directory).join "aelys-ls"
  | none =>
    match home with
    | some directory => (Path.ofText directory).join ".local/share/aelys-ls"
    | none => .ofText "/tmp/aelys-ls"

end LanguageServer
