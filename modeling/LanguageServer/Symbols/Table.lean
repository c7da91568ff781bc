import LanguageServer.Library.Basic
import LanguageServer.Source.Resolve

/-!
# The symbols visible in a document

A document sees the functions of the standard library, those of the modules that it imports and its
own.  `SymbolTable.merge` lays the three over each other, keyed by what is written at a call, and a
later layer takes the place of an earlier entry of the same key:

* the standard library, under `module.name`;
* the imports, in the order of the text.  A module of the standard library comes in under the
  binding of its import, an imported file brings the functions that it exports;
* the functions of the document itself, under their bare names.

The table keeps the order in which keys first appeared (`SymbolTable.insert`).  A bare name that is
no key may still be meant for a function of the standard library (`SymbolTable.lookup`).
-/

namespace LanguageServer

open Text

/-- Which layer an entry comes from. -/
inductive Origin where
  | library
  | libraryImport
  | fileImport
  | document
deriving DecidableEq, Repr

/-- What is known about a visible function. -/
structure SymbolEntry where
  label : String
  documentation : String
  parameters : List Parameter
  visibility : Visibility
  /-- Where the function is declared; functions of the standard library are declared nowhere. -/
  location : Option Location
  origin : Origin
deriving DecidableEq, Repr

namespace SymbolEntry

/-- The entry for a function of the standard library, shown under the given label. -/
def ofLibrary (f : LibraryFunction) (label : String) (origin : Origin) : SymbolEntry :=
  ⟨label, f.documentation, f.parameters, .exported, none, origin⟩

/-- The entry for a declared function. -/
def ofSymbol (symbol : Symbol) (origin : Origin) : SymbolEntry :=
  { label := symbol.label
    documentation := symbol.documentation
    parameters := symbol.parameterLabels.map fun label => ⟨label, none⟩
    visibility := symbol.visibility
    location := some symbol.location
    origin }

end SymbolEntry

/-- Puts an entry under a key: in the place of the entry that is there, and otherwise at the end. -/
def putUnder {α : Type} (key : String) (entry : α) : List (String × α) → List (String × α)
  | [] => [(key, entry)]
  | (k, e) :: rest => if k = key then (k, entry) :: rest else (k, e) :: putUnder key entry rest

/-- A table of entries in the order in which their keys first appeared. -/
structure SymbolTable where
  entries : List (String × SymbolEntry)
deriving DecidableEq, Repr

namespace SymbolTable

/-- The table without entries. -/
def empty : SymbolTable := ⟨[]⟩

/-- The keys, in order. -/
def keys (table : SymbolTable) : List String :=
  table.entries.map (·.1)

/-- The number of entries. -/
def size (table : SymbolTable) : Nat :=
  table.entries.length

/-- The entry under the key. -/
def get? (table : SymbolTable) (key : String) : Option SymbolEntry :=
  (table.entries.find? (·.1 == key)).map (·.2)

/-- The table with the entry under the key. -/
def insert (table : SymbolTable) (key : String) (entry : SymbolEntry) : SymbolTable :=
  ⟨putUnder key entry table.entries⟩

/-- The table with all the entries, put in one after the other. -/
def insertAll (table : SymbolTable) (layer : List (String × SymbolEntry)) : SymbolTable :=
  layer.foldl (fun t (key, entry) => t.insert key entry) table

/-! ## The layers -/

/-- The layer of the standard library. -/
def libraryLayer (library : Library) : List (String × SymbolEntry) :=
  library.functions.map fun f => (f.name.text, .ofLibrary f f.label .library)

/-- The layer of an imported module of the standard library.  In keys and labels the binding takes
the place of the module. -/
def libraryImportLayer (library : Library) (imp : Import) : List (String × SymbolEntry) :=
  let module := imp.stdModule
  let binding := imp.alternate.getD module
  (library.moduleFunctions module).map fun f =>
    let label :=
      String.ofList (replaceFirst module.toList binding.toList f.label.toList)
    (binding ++ "." ++ f.name.last, .ofLibrary f label .libraryImport)

/-- The layer of an import. -/
def importLayer (library : Library) (resolved : ResolvedImport) : List (String × SymbolEntry) :=
  match resolved.resolution with
  | .standard => libraryImportLayer library resolved.imported
  | .module _ symbols =>
    (symbols.filter (·.isExported)).map fun symbol =>
      (symbol.qualifiedName, .ofSymbol symbol .fileImport)
  | .missing => []

/-- The layer of the document itself. -/
def documentLayer (symbols : List Symbol) : List (String × SymbolEntry) :=
  symbols.map fun symbol => (symbol.qualifiedName, .ofSymbol symbol .document)

/-- The table of everything that a document sees. -/
def merge (library : Library) (imports : List ResolvedImport) (symbols : List Symbol) :
    SymbolTable :=
  empty.insertAll
    (libraryLayer library ++ (imports.map (importLayer library)).flatten ++ documentLayer symbols)

/-! ## Looking up names -/

/-- The entry that a name at a call means: the one under this key, or else, for a name without a
dot, the one of the first library function of this name. -/
def lookup (table : SymbolTable) (library : Library) (name : String) : Option SymbolEntry :=
  match table.get? name with
  | some entry => some entry
  | none =>
    if name.toList.contains '.' then none
    else (library.findBare? name).bind fun f => table.get? f.name.text

end SymbolTable

end LanguageServer
