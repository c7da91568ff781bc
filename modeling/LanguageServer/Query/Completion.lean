import LanguageServer.Query.Basic

/-!
# Completion

After the sign of an attribute the attributes are offered.  After a name and a dot, where the name
is the binding of an import, the contents of that module are offered: the functions and constants of
a module of the standard library, or the functions that an imported file exports.  Nothing is
offered anywhere else.
-/

namespace LanguageServer

open Text

/-- What a completion stands for. -/
inductive CompletionKind where
  | method
  | function
  | keyword
  | constant
deriving DecidableEq, Repr

/-- Documentation, either formatted or plain. -/
inductive Documentation where
  | markdown (text : String)
  | plain (text : String)
deriving DecidableEq, Repr

/-- What a completion puts into the text, if it is not its label. -/
inductive Insertion where
  | text (value : String)
  /-- A template with a place for the cursor. -/
  | snippet (value : String)
deriving DecidableEq, Repr

/-- A completion. -/
structure Completion where
  label : String
  kind : CompletionKind
  detail : Option String
  documentation : Documentation
  insertion : Option Insertion
deriving DecidableEq, Repr

namespace Completion

/-- The template of a call, with the cursor between the parentheses. -/
def call (name : String) : Insertion :=
  .snippet (name ++ "($\x7b1\x7d)")

/-- The completion for an attribute. -/
def ofAttribute (a : Attribute) : Completion :=
  { label := a.name
    kind := .keyword
    detail := none
    documentation := .markdown a.documentation
    insertion := some (.text (String.ofList (a.name.toList.dropWhile (· == '@')))) }

/-- The completion for a function of the standard library. -/
def ofFunction (f : LibraryFunction) : Completion :=
  { label := f.name.last
    kind := .function
    detail := some f.label
    documentation := .markdown f.documentation
    insertion := some (call f.name.last) }

/-- The completion for a constant of the standard library. -/
def ofConstant (c : LibraryConstant) : Completion :=
  { label := c.name.last
    kind := .constant
    detail := some c.name.text
    documentation := .plain c.value
    insertion := none }

/-- The completion for a function of an imported file. -/
def ofSymbol (symbol : Symbol) : Completion :=
  { label := symbol.name
    kind := .method
    detail := some symbol.declaration
    documentation := .markdown symbol.documentation
    insertion := some (call symbol.name) }

end Completion

namespace Query

/-- The name before a dot at the end of the text: of the run of name parts before the dot, what is
left from the first character that can begin a name. -/
def bindingBefore? (before : List Char) : Option (List Char) :=
  match before.reverse with
  | '.' :: rest =>
    let name := (rest.takeWhile isNamePart).reverse.dropWhile fun c => !isNameStart c
    if name = [] then none else some name
  | _ => none

/-- The contents of the module that an import stands for. -/
def moduleCompletions (snapshot : Snapshot) (imp : Import) : List Completion :=
  match (imp.resolve snapshot.sources snapshot.directory).resolution with
  | .standard =>
    (snapshot.library.moduleFunctions imp.stdModule).map Completion.ofFunction ++
      (snapshot.library.moduleConstants imp.stdModule).map Completion.ofConstant
  | .module _ symbols => (symbols.filter (·.isExported)).map Completion.ofSymbol
  | .missing => []

/-- What is offered after the beginning of a line; nothing at all where completion does not
apply. -/
def completionsAfter? (snapshot : Snapshot) (before : List Char) : Option (List Completion) :=
  if before.getLast? = some '@' then
    some (snapshot.library.attributes.map Completion.ofAttribute)
  else do
    let binding ← bindingBefore? before
    let imp ← Import.find? (Import.scan snapshot.text) (String.ofList binding)
    some (moduleCompletions snapshot imp)

/-- What is offered at a position. -/
def completions? (snapshot : Snapshot) (position : Position) : Option (List Completion) :=
  let line := (lines snapshot.text.toList).getD position.line []
  completionsAfter? snapshot (line.take (columnChars position.character line))

end Query

end LanguageServer
