import LanguageServer.File.Tree

/-!
# Sample workspaces

Workspaces of any size for trying out the server.  The files of a sample import standard modules and
each other in a chain, declare functions of both visibilities and some variables.  The same sample
always has the same text.
-/

namespace LanguageServer

/-- The size of a sample workspace. -/
structure Sample where
  files : Nat
  /-- The number of functions in each file. -/
  functions : Nat
  /-- How many files, from the first on, import the next one. -/
  chain : Nat
  /-- The number of imported standard modules in each file. -/
  standardImports : Nat
  /-- The number of variables in each file. -/
  bindings : Nat
deriving DecidableEq, Repr

namespace Sample

/-- A small sample. -/
def small : Sample := ⟨10, 5, 3, 1, 5⟩

/-- A sample of medium size. -/
def medium : Sample := ⟨50, 10, 10, 2, 10⟩

/-- The standard modules that are imported in turn. -/
def modules : List String := ["math", "io", "string", "convert", "time", "fs"]

/-- The standard module that is imported at the given place of the given file. -/
def module (file place : Nat) : String :=
  modules.getD ((file + place) % modules.length) ""

/-- The name of a file. -/
def fileName (file : Nat) : String :=
  "module_" ++ toString file ++ ".aelys"

/-! ## The text of a file -/

/-- The lines that import standard modules, and the next file where the chain goes on. -/
def importLines (sample : Sample) (file : Nat) : List String :=
  ((List.range sample.standardImports).map fun i =>
    "needs std." ++ module file i ++ " as s" ++ toString i) ++
  (if file < sample.chain && file + 1 < sample.files then
    ["needs module_" ++ toString (file + 1) ++ " as next"]
  else [])

/-- Is the function with the given number exported?  Every third one is not. -/
def isExported (f : Nat) : Bool := f % 3 != 2

/-- The lines of a function. -/
def functionLines (file f : Nat) : List String :=
  (if isExported f then
    ["// Computes value " ++ toString f ++ " of module " ++ toString file]
  else []) ++
  [ (if isExported f then "pub fn func_" else "fn func_") ++ toString file ++ "_" ++ toString f ++
      "(x: int, y: int) \x7b",
    "    let result = x + y * " ++ toString (f + 1),
    "    if result > 100 \x7b return 0 \x7d",
    "    return result",
    "\x7d",
    "" ]

/-- The line of a variable. -/
def variableLine (file v : Nat) : String :=
  "let mut var_" ++ toString file ++ "_" ++ toString v ++ " = " ++ toString (v + 1)

/-- The lines of a file. -/
def lines (sample : Sample) (file : Nat) : List String :=
  sample.importLines file ++ [""] ++
    ((List.range sample.functions).map (functionLines file)).flatten ++
    (List.range sample.bindings).map (variableLine file)

/-- The text of a file. -/
def text (sample : Sample) (file : Nat) : String :=
  String.join ((sample.lines file).map (· ++ "\n"))

/-- Writes the files of a sample into a directory. -/
def write (sample : Sample) (directory : Path) (tree : FileTree) : Except FileError FileTree :=
  (List.range sample.files).foldlM
    (fun tree file =>
      (tree.write (directory.join (fileName file)) (.text (sample.text file))).toExcept)
    tree

end Sample

end LanguageServer
