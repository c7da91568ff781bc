import LanguageServer.Source.Import
import LanguageServer.Source.Symbol
import LanguageServer.File.Sources

/-!
# Resolved imports

An import of the standard library stands for itself.  Any other import stands for a file in the
directory of the importing document: of the candidate files the first one that exists is taken, and
the functions it exports are read from it.  A document without a directory, a module without a file
and a file that cannot be read leave the import unresolved; it then contributes nothing.
-/

namespace LanguageServer

/-- What was found for an import. -/
inductive Resolution where
  /-- A module of the standard library. -/
  | standard
  /-- A file, with the functions that it exports. -/
  | module (path : Path) (symbols : List Symbol)
  /-- Nothing. -/
  | missing
deriving DecidableEq, Repr

/-- An import with what was found for it. -/
structure ResolvedImport where
  imported : Import
  resolution : Resolution
deriving DecidableEq, Repr

namespace Import

/-- The file in the directory that the import stands for: the first candidate that exists. -/
def locate? (imp : Import) (sources : Sources) (directory : Path) : Option Path :=
  if imp.isStandard then none
  else (imp.candidates.map directory.join).find? sources.holds

/-- The functions that a module file exports, qualified by the other name of the import if it has
one. -/
def symbolsOf (imp : Import) (path : Path) (text : String) : List Symbol :=
  (Symbol.scan text imp.alternate .imported).map fun symbol =>
    { symbol with location := { symbol.location with path := some path } }

/-- What the import stands for in a document of the given directory. -/
def resolve (imp : Import) (sources : Sources) (directory : Option Path) : ResolvedImport :=
  { imported := imp
    resolution :=
      if imp.isStandard then .standard
      else match directory.bind (imp.locate? sources) with
        | none => .missing
        | some path =>
          match sources.read? path with
          | none => .missing
          | some text => .module path (imp.symbolsOf path text) }

end Import

end LanguageServer
