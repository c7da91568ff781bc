import LanguageServer.Text.Split
import LanguageServer.Text.Utf8

/-!
# Paths

A path is kept as it was written, because that is how it is shown.  It consists of bytes: a file
system does not ask that a name be text, and two names that are no text are different names even if
they are shown alike (`Path.text`).

Two paths are the same when their components are: repeated slashes, a slash at the end and a dot
that stands for the directory it is written in do not count (`Path.components`).  A dot at the very
beginning of a relative path does count, and so does every pair of dots; no file system is asked.
-/

namespace LanguageServer

open Text

/-- The name of a file in its directory. -/
abbrev FileName := List UInt8

/-- A path of a file or directory, as written. -/
structure Path where
  bytes : List UInt8
deriving DecidableEq, Repr

namespace Path

/-- The byte between the names of a path. -/
def slash : UInt8 := 0x2F

/-- The byte before the extension of a name. -/
def dot : UInt8 := 0x2E

/-- The name that stands for the directory it is written in. -/
def here : FileName := [dot]

/-- The name that stands for the directory above. -/
def above : FileName := [dot, dot]

/-- The path that a text gives. -/
def ofText (text : String) : Path :=
  ⟨encode text.toList⟩

/-- The path as it is shown. -/
def text (path : Path) : String :=
  String.ofList (decode path.bytes)

/-- One step of a path. -/
inductive Component where
  | root
  | here
  | up
  | name (name : FileName)
deriving DecidableEq, Repr

/-- The parts between the slashes of the path. -/
def parts (path : Path) : List FileName :=
  splitOn slash path.bytes

/-- Does the path begin at the root? -/
def isAbsolute (path : Path) : Bool :=
  path.bytes.head? == some slash

/-- The component that a part stands for, or none when it does not count. -/
def component? (part : FileName) : Option Component :=
  if part = [] || part = here then none
  else if part = above then some .up
  else some (.name part)

/-- Does the path begin with the directory that it is followed from? -/
def beginsHere (path : Path) : Bool :=
  path.parts.head? == some here

/-- The steps that the path consists of. -/
def components (path : Path) : List Component :=
  let steps := path.parts.filterMap component?
  if path.isAbsolute then .root :: steps
  else if path.beginsHere then .here :: steps
  else steps

/-- Do the two paths have the same components? -/
def same (p q : Path) : Bool :=
  p.components == q.components

/-- The parts without those at the end that do not count. -/
def dropIdle (parts : List FileName) : List FileName :=
  (parts.reverse.dropWhile fun part => component? part == none).reverse

/-- The path of the directory that holds the last component.  The root and the empty path have
none. -/
def parent? (path : Path) : Option Path :=
  if path.isAbsolute then
    match dropIdle (path.parts.drop 1) with
    | [] => none
    | parts => some ⟨slash :: joinWith [slash] (dropIdle parts.dropLast)⟩
  else if path.beginsHere then
    match dropIdle (path.parts.drop 1) with
    | [] => some ⟨[]⟩
    | parts => some ⟨joinWith [slash] (here :: dropIdle parts.dropLast)⟩
  else
    match dropIdle path.parts with
    | [] => none
    | parts => some ⟨joinWith [slash] (dropIdle parts.dropLast)⟩

/-- The path and the directories above it, at most as many as are asked for. -/
def ancestorsUpTo : Nat → Path → List Path
  | 0, path => [path]
  | count + 1, path =>
    path :: match path.parent? with
      | none => []
      | some parent => ancestorsUpTo count parent

/-- The path and all directories above it, from the path upwards. -/
def ancestors (path : Path) : List Path :=
  ancestorsUpTo path.components.length path

/-- The name that the path ends with, if it ends with a name. -/
def fileName? (path : Path) : Option FileName :=
  match path.components.getLast? with
  | some (.name name) => some name
  | _ => none

/-- The part of the file name after its last dot.  A dot at the beginning of the name, and no other
before the end, does not start an extension. -/
def extension? (path : Path) : Option FileName :=
  path.fileName?.bind fun name =>
    match splitOn dot name with
    | [] | [_] | [[], _] => none
    | parts => parts.getLast?

/-- The path of the named file inside the directory.  An absolute name stands for itself. -/
def child (directory : Path) (name : FileName) : Path :=
  if name.head? = some slash then ⟨name⟩
  else match directory.bytes.getLast? with
    | none => ⟨name⟩
    | some last => if last = slash then ⟨directory.bytes ++ name⟩
      else ⟨directory.bytes ++ slash :: name⟩

/-- The path of the file inside the directory whose name is a text. -/
def join (directory : Path) (name : String) : Path :=
  directory.child (encode name.toList)

end Path

end LanguageServer
