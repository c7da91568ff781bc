import LanguageServer.Source.Find
import LanguageServer.Source.Scrub
import LanguageServer.Text.Split

/-!
# Imports

A script brings another module into scope with `needs path`, or with `needs path as alias`.  The
path is a dotted sequence of plain names.  A path that begins with the segment `std` and has at
least one more names a module of the standard library; any other path names a file next to the
script.

In code an import is referred to by its *binding*: the alias if there is one, and otherwise the last
segment of the path.

`Import.scan` finds the imports of a text line by line, in order of appearance.  It looks at
scrubbed lines, so an import in a comment or in a string literal is no import.
-/

namespace LanguageServer

open Text Source

/-- A declaration that brings a module into scope. -/
structure Import where
  /-- The dotted path of the module, as written. -/
  modulePath : String
  /-- The name after `as`, when one is given. -/
  alternate : Option String
  /-- The number of the line that holds the declaration, counted from zero. -/
  line : Nat
deriving DecidableEq, Repr

namespace Import

/-- The segments of the path between its dots. -/
def segments (imp : Import) : List String :=
  (splitOn '.' imp.modulePath.toList).map String.ofList

/-- Does the path name a module of the standard library? -/
def isStandard (imp : Import) : Bool :=
  match imp.segments with
  | "std" :: _ :: _ => true
  | _ => false

/-- The name that code refers to the module by. -/
def binding (imp : Import) : String :=
  imp.alternate.getD (imp.segments.getLastD imp.modulePath)

/-- The path without the segment that stands for the standard library; the path itself when the
module is not of the standard library. -/
def stdModule (imp : Import) : String :=
  if imp.isStandard then String.ofList (imp.modulePath.toList.drop 4) else imp.modulePath

/-- The endings of source files, in the order in which they are tried. -/
def fileEndings : List String := ["aelys", "ae"]

/-- The names of the files that the module may be found in, in the order in which they are tried. -/
def candidates (imp : Import) : List String :=
  fileEndings.map fun ending => imp.modulePath ++ "." ++ ending

/-! ## Reading imports -/

/-- Reads the rest of a dotted path.  A dot belongs to the path only when a segment follows. -/
def pathRest : List Char → List Char × List Char
  | [] => ([], [])
  | '.' :: c :: cs =>
    if isNameStart c then
      let (path, rest) := pathRest cs
      ('.' :: c :: path, rest)
    else ([], '.' :: c :: cs)
  | c :: cs =>
    if isNamePart c then
      let (path, rest) := pathRest cs
      (c :: path, rest)
    else ([], c :: cs)

/-- Reads a dotted path. -/
def path? : Reader (List Char)
  | [] => none
  | c :: cs =>
    if isNameStart c then
      let (path, rest) := pathRest cs
      some (c :: path, rest)
    else none

/-- Reads `as` and an alias, with blanks before both. -/
def alternate? : Reader (List Char) := fun cs => do
  let cs ← skipBlanks1? cs
  let cs ← strip? ['a', 's'] cs
  let cs ← skipBlanks1? cs
  name? isNamePart cs

/-- Reads an import: its path and its alias. -/
def read? : Reader (List Char × Option (List Char)) := fun cs => do
  let cs ← strip? ['n', 'e', 'e', 'd', 's'] cs
  let cs ← skipBlanks1? cs
  let (path, cs) ← path? cs
  match alternate? cs with
  | some (name, rest) => some ((path, some name), rest)
  | none => some ((path, none), cs)

/-- The imports on one scrubbed line, which has the given number. -/
def onLine (number : Nat) (scrubbed : List Char) : List Import :=
  (findAll wordStart read? scrubbed).map fun found =>
    ⟨String.ofList found.value.1, found.value.2.map String.ofList, number⟩

/-- The imports of a text, in order of appearance. -/
def scan (text : String) : List Import :=
  ((lines text.toList).zipIdx.map fun (line, number) => onLine number (scrubLine line)).flatten

/-- The first of the imports that the binding refers to. -/
def find? (imports : List Import) (binding : String) : Option Import :=
  imports.find? fun imp => imp.binding == binding

end Import

end LanguageServer
