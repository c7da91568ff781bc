import LanguageServer.File.Path

/-!
# File trees

A file tree is what a file system holds: at each *place*, given by the names that lead to it from
the root, a directory or a file.  The root itself is always a directory.

The tree is a value.  An operation that changes it returns the changed tree, or the cause for which
the file system refuses; reading and changing follow a path component by component, so that a name
below a file, a name below nothing, a pair of dots and a name that is too long are treated as a file
system treats them (`FileTree.locate`).  A path that does not begin at the root is followed from the
working directory of the process, which stays the same.

What the nodes of a tree allow may fail all the same, because the medium is full or worn out, or
because a file belongs to somebody else.  The tree carries an oracle that tells which changes fail
(`Medium`), so that whatever is proved for all trees is proved for all such failures.  Writing a
file is the one change that can fail half-way: the file is then there and holds something else
(`FileTree.write`).

A file holds text, or bytes that are no text, or a program.  A program is known by its source and by
what comes of running it; nothing else about it matters here.

Not part of a tree are links, owners and permissions other than the right to run a file, changes
made by other processes, and reading that fails although the file is there.
-/

namespace LanguageServer

/-- The names that lead from the root to a node. -/
abbrev Place := List FileName

/-- The place as an absolute path. -/
def Place.path (place : Place) : Path :=
  ⟨Path.slash :: Text.joinWith [Path.slash] place⟩

/-- Why a file system refuses an operation. -/
inductive FileError where
  | notFound
  | permissionDenied
  | alreadyExists
  | notADirectory
  | isADirectory
  | nameTooLong
  /-- Any other cause, known by its message. -/
  | other (message : String)
  /-- A path contains a zero byte, which no name contains. -/
  | zeroInPath
  /-- The command for a program contains a zero byte. -/
  | zeroInCommand
deriving DecidableEq, Repr

/-- The message for a refusal, with the number of the error where it has one. -/
def FileError.message : FileError → String
  | .notFound => "No such file or directory (os error 2)"
  | .permissionDenied => "Permission denied (os error 13)"
  | .alreadyExists => "File exists (os error 17)"
  | .notADirectory => "Not a directory (os error 20)"
  | .isADirectory => "Is a directory (os error 21)"
  | .nameTooLong => "File name too long (os error 36)"
  | .other message => message
  | .zeroInPath => "file name contained an unexpected NUL byte"
  | .zeroInCommand => "nul byte found in provided data"

/-- The greatest number of bytes in a name. -/
def FileName.limit : Nat := 255

/-- The greatest number of bytes in a path. -/
def Path.limit : Nat := 4095

/-- Does the path contain a zero byte? -/
def Path.hasZero (path : Path) : Bool :=
  path.bytes.contains 0

/-! ## Programs and files -/

/-- How a process ended: by itself with a code, or by a signal. -/
inductive ExitStatus where
  | exited (code : Nat)
  | killed (signal : Nat)
deriving DecidableEq, Repr

/-- What comes of running a program. -/
structure ProcessResult where
  output : List UInt8
  errors : List UInt8
  status : ExitStatus

/-- How a program is started: its arguments and, when one is chosen, its working directory. -/
structure Invocation where
  arguments : List (List UInt8)
  directory : Option Place

/-- What a file holds. -/
inductive Content where
  | text (value : String)
  /-- Bytes that are not text. -/
  | bytes (value : List UInt8)
  | program (source : String) (run : Invocation → ProcessResult)

/-- The text of a content, if it is text. -/
def Content.text? : Content → Option String
  | .text value => some value
  | .bytes _ => none
  | .program source _ => some source

/-- What comes of running a content.  A text is a script without commands. -/
def Content.run : Content → Invocation → ProcessResult
  | .program _ run, invocation => run invocation
  | _, _ => ⟨[], [], .exited 0⟩

/-- A file: what it holds, and whether it may be run. -/
structure File where
  content : Content
  /-- Whether it has the mode of a program, 755. -/
  executable : Bool

/-- What stands at a place. -/
inductive Node where
  | directory
  | file (file : File)

/-! ## Media -/

/-- A change of the nodes of a file system. -/
inductive FileChange where
  | makeDirectory (place : Place)
  /-- A file is opened to be written, which empties it. -/
  | openFile (place : Place)
  /-- A content is written to an open file. -/
  | fill (place : Place) (content : Content)
  | makeExecutable (place : Place)
  | rename (source target : Place)
  | remove (place : Place)

/-- What the nodes of a file system are kept on: it tells which changes fail although the nodes
allow them. -/
structure Medium where
  /-- Why a change fails, if it does. -/
  failure? : FileChange → Option FileError
  /-- What a file holds when a content could not be written to it in full. -/
  remnant : Content → Content

/-- A medium on which no change fails. -/
def Medium.sound : Medium := ⟨fun _ => none, id⟩

/-- The nodes of a file system below its root, as they are seen by a process. -/
structure FileTree where
  entries : List (Place × Node)
  /-- The place that relative paths are followed from. -/
  workingDirectory : Place := []
  medium : Medium := .sound

namespace FileTree

/-- The tree that consists of the root alone. -/
def empty : FileTree := { entries := [] }

/-- What stands at the place. -/
def node? (tree : FileTree) (place : Place) : Option Node :=
  if place = [] then some .directory
  else (tree.entries.find? (·.1 = place)).map (·.2)

/-- The tree with the node at the place, whatever stood there before. -/
def set (tree : FileTree) (place : Place) (node : Node) : FileTree :=
  { tree with entries := (place, node) :: tree.entries.filter (·.1 ≠ place) }

/-- The tree without what stands at the place. -/
def erase (tree : FileTree) (place : Place) : FileTree :=
  { tree with entries := tree.entries.filter (·.1 ≠ place) }

/-! ## Following a path -/

/-- Follows the parts of a path from a place.  Returns the place that the path leads to and what
stands there; the last name may lead to nothing. -/
def follow (tree : FileTree) : Place → List FileName → Except FileError (Place × Option Node)
  | place, [] => .ok (place, tree.node? place)
  | place, part :: rest =>
    match tree.node? place with
    | some .directory =>
      if part = [] || part = Path.here then follow tree place rest
      else if part = Path.above then follow tree place.dropLast rest
      else if FileName.limit < part.length then .error .nameTooLong
      else
        let next := place ++ [part]
        match tree.node? next with
        | some _ => follow tree next rest
        | none => if rest.all (·.isEmpty) then .ok (next, none) else .error .notFound
    | some (.file _) => .error .notADirectory
    | none => .error .notFound

/-- Refuses the paths that no file system follows. -/
def check (path : Path) : Except FileError Unit :=
  if path.hasZero then .error .zeroInPath
  else if Path.limit < path.bytes.length then .error .nameTooLong
  else if path.bytes = [] then .error .notFound
  else .ok ()

/-- The place that a path is followed from. -/
def start (tree : FileTree) (path : Path) : Place :=
  if path.isAbsolute then [] else tree.workingDirectory

/-- The place that a path leads to, and what stands there. -/
def locate (tree : FileTree) (path : Path) : Except FileError (Place × Option Node) := do
  check path
  tree.follow (tree.start path) path.parts

/-- The file that the path leads to. -/
def file? (tree : FileTree) (path : Path) : Option File :=
  match tree.locate path with
  | .ok (_, some (.file file)) => some file
  | _ => none

/-- Does the path lead to a file? -/
def isFile (tree : FileTree) (path : Path) : Bool :=
  (tree.file? path).isSome

/-- Does the path lead to a directory? -/
def isDirectory (tree : FileTree) (path : Path) : Bool :=
  match tree.locate path with
  | .ok (_, some .directory) => true
  | _ => false

/-- The text of the file that the path leads to. -/
def readText? (tree : FileTree) (path : Path) : Option String :=
  (tree.file? path).bind fun file => file.content.text?

/-! ## Changing the tree -/

/-- What comes of a change that may stop half-way: the tree afterwards, and the cause if it
failed. -/
abbrev Attempt := FileTree × Option FileError

/-- The tree after a change that did not fail, or the cause. -/
def Attempt.toExcept : Attempt → Except FileError FileTree
  | (tree, none) => .ok tree
  | (_, some e) => .error e

/-- The tree after a change that did not fail. -/
def Attempt.toOption (attempt : Attempt) : Option FileTree :=
  attempt.toExcept.toOption

/-- The changed tree, unless the medium fails. -/
def commit (tree : FileTree) (change : FileChange) (changed : FileTree) :
    Except FileError FileTree :=
  match tree.medium.failure? change with
  | some e => .error e
  | none => .ok changed

/-- Makes a directory with the name at a place. -/
def makeIn (tree : FileTree) (place : Place) (name : FileName) : Except FileError FileTree :=
  match tree.follow place [name] with
  | .error e => .error e
  | .ok (_, some _) => .error .alreadyExists
  | .ok (new, none) => tree.commit (.makeDirectory new) (tree.set new .directory)

/-- Makes the directory that the path leads to, inside one that exists. -/
def makeDirectory (tree : FileTree) (path : Path) : Except FileError FileTree := do
  check path
  let parts := (path.parts.reverse.dropWhile (·.isEmpty)).reverse
  match parts.getLast? with
  | none => .error .alreadyExists
  | some name =>
    match ← tree.follow (tree.start path) parts.dropLast with
    | (place, some .directory) => tree.makeIn place name
    | (_, some (.file _)) => .error .notADirectory
    | (_, none) => .error .notFound

/-- Makes the first of the paths, after those that follow where they are missing.  Returns the tree
afterwards, and the cause if a directory could not be made; those made before it stay. -/
def makeChain (tree : FileTree) : List Path → Attempt
  | [] => (tree, none)
  | path :: above =>
    if path.bytes = [] then (tree, none)
    else match tree.makeDirectory path with
      | .ok made => (made, none)
      | .error .notFound =>
        match makeChain tree above with
        | (made, some e) => (made, some e)
        | (made, none) =>
          match made.makeDirectory path with
          | .ok complete => (complete, none)
          | .error e => (made, if made.isDirectory path then none else some e)
      | .error e => (tree, if tree.isDirectory path then none else some e)

/-- Makes the directory that the path leads to, and those above it, where they are missing.  Returns
the tree afterwards, and the cause if it failed. -/
def makeDirectories (tree : FileTree) (path : Path) : Attempt :=
  tree.makeChain path.ancestors

/-- Opens the file at a place, and writes a content to it. -/
def fill (tree : FileTree) (place : Place) (content : Content) (executable : Bool) : Attempt :=
  match tree.medium.failure? (.openFile place) with
  | some e => (tree, some e)
  | none =>
    match tree.medium.failure? (.fill place content) with
    | some e => (tree.set place (.file ⟨tree.medium.remnant content, executable⟩), some e)
    | none => (tree.set place (.file ⟨content, executable⟩), none)

/-- Writes a file.  A file that is there already stays as executable as it was. -/
def write (tree : FileTree) (path : Path) (content : Content) : Attempt :=
  match tree.locate path with
  | .error e => (tree, some e)
  | .ok (_, some .directory) => (tree, some .isADirectory)
  | .ok (place, some (.file file)) => tree.fill place content file.executable
  | .ok (place, none) => tree.fill place content false

/-- Makes a file executable: gives it the mode 755. -/
def makeExecutable (tree : FileTree) (path : Path) : Except FileError FileTree := do
  match ← tree.locate path with
  | (place, some (.file file)) =>
    tree.commit (.makeExecutable place) (tree.set place (.file { file with executable := true }))
  | (place, some .directory) => tree.commit (.makeExecutable place) tree
  | (_, none) => .error .notFound

/-- Moves a file to another path, in place of a file that is there. -/
def rename (tree : FileTree) (source target : Path) : Except FileError FileTree := do
  match ← tree.locate source with
  | (_, none) => .error .notFound
  | (_, some .directory) => .error .isADirectory
  | (old, some (.file file)) =>
    match ← tree.locate target with
    | (_, some .directory) => .error .isADirectory
    | (new, _) => tree.commit (.rename old new) ((tree.erase old).set new (.file file))

/-- Removes a file. -/
def remove (tree : FileTree) (path : Path) : Except FileError FileTree := do
  match ← tree.locate path with
  | (place, some (.file _)) => tree.commit (.remove place) (tree.erase place)
  | (_, some .directory) => .error .isADirectory
  | (_, none) => .error .notFound

/-- Everything at or below the path.  A node further down has the path that leads to it through the
names below the given path. -/
def below (tree : FileTree) (path : Path) : List (Path × Node) :=
  match tree.locate path with
  | .ok (place, some node) =>
    (path, node) :: tree.entries.filterMap fun (other, node) =>
      if place.isPrefixOf other && other != place then
        some ((other.drop place.length).foldl Path.child path, node)
      else none
  | _ => []

/-! ## Running programs -/

/-- The directory that a program is started in. -/
def enter (tree : FileTree) (path : Path) : Except FileError Place := do
  match ← tree.locate path with
  | (place, some .directory) => .ok place
  | (_, some (.file _)) => .error .notADirectory
  | (_, none) => .error .notFound

/-- What stands at the path of a program.  A relative path is followed from the directory that the
program is started in; a bare name is no path. -/
def locateProgram (tree : FileTree) (binary : Path) (directory : Option Place) :
    Except FileError (Option Node) :=
  if binary.isAbsolute then (tree.locate binary).map (·.2)
  else if Path.limit < binary.bytes.length then .error .nameTooLong
  else if binary.bytes.contains Path.slash then
    (tree.follow (directory.getD tree.workingDirectory) binary.parts).map (·.2)
  else .error .notFound

/-- Starts the program at the path.  Nothing in the command may contain a zero byte; the working
directory, when one is chosen, must exist; the program must be a file that may be run. -/
def spawn (tree : FileTree) (binary : Path) (arguments : List (List UInt8))
    (directory : Option Path) : Except FileError ProcessResult := do
  if binary.hasZero || arguments.any (·.contains 0) || directory.any Path.hasZero then
    .error .zeroInCommand
  else
    let place ← directory.mapM tree.enter
    match ← tree.locateProgram binary place with
    | none => .error .notFound
    | some .directory => .error .permissionDenied
    | some (.file file) =>
      if file.executable then .ok (file.content.run ⟨arguments, place⟩)
      else .error .permissionDenied

end FileTree

end LanguageServer
