import LanguageServer.Text.Split

/-!
# The standard library of the script language

The server knows the functions, constants and attributes of the standard library by tables of rows.
`Library.ofTables` builds from them what the queries use, and refuses tables in which a key occurs
twice.  The key of a function or a constant is its module and its name with a dot between them, that
of an attribute is its name.

A qualified name can be taken apart at its last dot only; a name that holds a dot itself therefore
moves part of itself into the module.

The hover text of a bare word is that of the attribute of this name, or else of the first function,
or else of the first constant.
-/

namespace LanguageServer

open Text

/-! ## Names and rows -/

/-- A dotted name of a function or a constant. -/
structure QualifiedName where
  text : String
deriving DecidableEq, Repr

namespace QualifiedName

/-- The name inside the module. -/
def make (module name : String) : QualifiedName :=
  ⟨module ++ "." ++ name⟩

/-- The segments of the name between its dots. -/
def segments (name : QualifiedName) : List (List Char) :=
  splitOn '.' name.text.toList

/-- Everything before the last dot. -/
def module (name : QualifiedName) : String :=
  String.ofList (joinWith ['.'] name.segments.dropLast)

/-- The segment after the last dot. -/
def last (name : QualifiedName) : String :=
  String.ofList (name.segments.getLastD [])

end QualifiedName

/-- A row of the table of functions. -/
structure FunctionRow where
  module : String
  name : String
  parameters : List String
  /-- Documentation of the first parameters; the others have none. -/
  parameterDocs : List String := []
  returns : Option String
  documentation : String
deriving DecidableEq, Repr

/-- A row of the table of constants. -/
structure ConstantRow where
  module : String
  name : String
  value : String
deriving DecidableEq, Repr

/-- An attribute of functions, with its sign. -/
structure Attribute where
  name : String
  documentation : String
deriving DecidableEq, Repr

/-! ## Entries -/

/-- A parameter of a function, as signature help shows it. -/
structure Parameter where
  label : String
  documentation : Option String
deriving DecidableEq, Repr

/-- The documentation to show for a parameter. -/
def Parameter.shown (parameter : Parameter) : String :=
  parameter.documentation.getD ("Parameter: " ++ parameter.label)

/-- A code block for signatures, with text after it. -/
def markdownSignature (signature text : String) : String :=
  "```rust\n" ++ signature ++ "\n```\n" ++ text

/-- A function of the library. -/
structure LibraryFunction where
  name : QualifiedName
  /-- The bare name of its row. -/
  bareName : String
  label : String
  parameters : List Parameter
  returns : Option String
  documentation : String
deriving DecidableEq, Repr

/-- The hover text of a function. -/
def LibraryFunction.hover (f : LibraryFunction) : String :=
  markdownSignature (f.label ++ (f.returns.map (" -> " ++ ·)).getD "") f.documentation

/-- The function of a row. -/
def FunctionRow.function (row : FunctionRow) : LibraryFunction :=
  let name := QualifiedName.make row.module row.name
  { name
    bareName := row.name
    label := name.text ++ "(" ++ ", ".intercalate row.parameters ++ ")"
    parameters := row.parameters.zipIdx.map fun (label, i) => ⟨label, row.parameterDocs[i]?⟩
    returns := row.returns
    documentation := row.documentation }

/-- A constant of the library. -/
structure LibraryConstant where
  name : QualifiedName
  /-- The bare name of its row. -/
  bareName : String
  value : String
deriving DecidableEq, Repr

/-- The hover text of a constant. -/
def LibraryConstant.hover (c : LibraryConstant) : String :=
  markdownSignature c.name.text c.value

/-- The constant of a row. -/
def ConstantRow.constant (row : ConstantRow) : LibraryConstant :=
  ⟨QualifiedName.make row.module row.name, row.name, row.value⟩

/-! ## The library -/

/-- The standard library. -/
structure Library where
  functions : List LibraryFunction
  constants : List LibraryConstant
  attributes : List Attribute
deriving DecidableEq, Repr

/-- Why tables are refused. -/
inductive LibraryError where
  /-- The key occurs twice. -/
  | duplicate (key : String)
deriving DecidableEq, Repr

/-- The message for refused tables. -/
def LibraryError.message : LibraryError → String
  | .duplicate key => "duplicate standard library entry '" ++ key ++ "'"

namespace Library

/-- The first key that occurs before in the list, where `seen` are the keys before the list. -/
def duplicate? : List String → List String → Option String
  | _, [] => none
  | seen, key :: keys => if seen.contains key then some key else duplicate? (key :: seen) keys

/-- The keys of the tables, in the order functions, constants, attributes. -/
def keys (functions : List FunctionRow) (constants : List ConstantRow)
    (attributes : List Attribute) : List String :=
  functions.map (fun row => (QualifiedName.make row.module row.name).text) ++
    constants.map (fun row => (QualifiedName.make row.module row.name).text) ++
    attributes.map (·.name)

/-- The library that the tables describe. -/
def ofTables (functions : List FunctionRow) (constants : List ConstantRow)
    (attributes : List Attribute) : Except LibraryError Library :=
  match duplicate? [] (keys functions constants attributes) with
  | some key => .error (.duplicate key)
  | none =>
    .ok ⟨functions.map FunctionRow.function, constants.map ConstantRow.constant, attributes⟩

/-- The function with the given qualified name. -/
def get? (library : Library) (qualified : String) : Option LibraryFunction :=
  library.functions.find? (·.name.text == qualified)

/-- The first function whose last segment is the given name. -/
def findBare? (library : Library) (name : String) : Option LibraryFunction :=
  library.functions.find? (·.name.last == name)

/-- The functions of a module. -/
def moduleFunctions (library : Library) (module : String) : List LibraryFunction :=
  library.functions.filter (·.name.module == module)

/-- The constants of a module. -/
def moduleConstants (library : Library) (module : String) : List LibraryConstant :=
  library.constants.filter (·.name.module == module)

/-- The hover texts of bare words, in order of precedence. -/
def hovers (library : Library) : List (String × String) :=
  library.attributes.map (fun a => (a.name, a.documentation)) ++
    library.functions.map (fun f => (f.bareName, f.hover)) ++
    library.constants.map (fun c => (c.bareName, c.hover))

/-- The hover text of a bare word. -/
def hover? (library : Library) (word : String) : Option String :=
  (library.hovers.find? (·.1 == word)).map (·.2)

end Library

end LanguageServer
