import LanguageServer.Source.Find
import LanguageServer.Source.Scrub
import LanguageServer.Text.Split
import LanguageServer.File.Path

/-!
# Function symbols

A script declares a function with `fn name(parameters)`; `pub` before it makes the function visible
to other modules.  `Symbol.scan` finds the functions that a text declares, in the order of the text.

Declarations are looked for in the scrubbed text, where the parameter list ends at the first closing
parenthesis and may run over several lines.  The line of a symbol is counted, and what it says about
its parameters is taken, in the text as written, at the same byte offsets.

The documentation of a function is the run of comment lines above it.  Lines with no text do not
interrupt the run, any other line ends it; a function without such a run gets a sentence that tells
its visibility (`Visibility.sentence`).
-/

namespace LanguageServer

open Text Source

/-- Is a declaration visible to other modules? -/
inductive Visibility where
  | exported
  | internal
deriving DecidableEq, Repr

/-- The documentation of a function that has none of its own. -/
def Visibility.sentence : Visibility → String
  | .exported => "Public function."
  | .internal => "Private function."

/-- Where a declaration stands.  The path is absent in the text that is being looked at itself. -/
structure Location where
  path : Option Path
  /-- The number of the line, counted from zero. -/
  line : Nat
deriving DecidableEq, Repr

/-- A function that a text declares. -/
structure Symbol where
  name : String
  /-- The name to look the function up by: its own, or its own behind a qualifier and a dot. -/
  qualifiedName : String
  /-- The text between the parentheses of the declaration, without blanks at its ends. -/
  rawParameters : String
  documentation : String
  visibility : Visibility
  location : Location
deriving DecidableEq, Repr

/-- Which declarations a reader of the text may see: all of them in the text being edited, the
exported ones in a text that is imported. -/
inductive Scope where
  | current
  | imported
deriving DecidableEq, Repr

/-! ## Parameters -/

/-- The parameters of a raw parameter list: what stands between its commas, trimmed, without the
empty ones. -/
def Parameter.split (raw : String) : List String :=
  (((splitOn ',' raw.toList).map trim).filter (· ≠ [])).map String.ofList

/-- The bare name of a parameter: what stands before its colon, trimmed. -/
def Parameter.bareName (parameter : String) : String :=
  String.ofList (trim (parameter.toList.takeWhile (· != ':')))

namespace Symbol

/-- The function with its parameters, as shown in a signature. -/
def label (symbol : Symbol) : String :=
  symbol.qualifiedName ++ "(" ++ symbol.rawParameters ++ ")"

/-- The parameters as written. -/
def parameterLabels (symbol : Symbol) : List String :=
  Parameter.split symbol.rawParameters

/-- The bare names of the parameters. -/
def parameterNames (symbol : Symbol) : List String :=
  symbol.parameterLabels.map Parameter.bareName

/-- The head of the declaration as it would be written in a script. -/
def declaration (symbol : Symbol) : String :=
  (match symbol.visibility with
    | .exported => "pub fn "
    | .internal => "fn ") ++ symbol.name ++ "(" ++ symbol.rawParameters ++ ")"

/-- Is the function visible to other modules? -/
def isExported (symbol : Symbol) : Bool :=
  symbol.visibility == .exported

/-! ## Reading declarations -/

/-- What a declaration says about a function. -/
structure Head where
  visibility : Visibility
  name : List Char
  /-- The bytes from the beginning of the declaration to its parameter list. -/
  parametersAt : Nat
  /-- The parameter list in scrubbed form. -/
  parameters : List Char

/-- Reads the head of a declaration up to the end of its parameter list. -/
def head? : Reader Head := fun cs => do
  let (visibility, afterKeyword) :=
    match (strip? ['p', 'u', 'b'] cs).bind skipBlanks1? with
    | some rest => (Visibility.exported, rest)
    | none => (Visibility.internal, cs)
  let rest ← strip? ['f', 'n'] afterKeyword
  let rest ← skipBlanks1? rest
  let (name, rest) ← name? isWord rest
  let list ← strip? ['('] (skipBlanks rest)
  let parameters := list.takeWhile (· != ')')
  let rest ← strip? [')'] (list.dropWhile (· != ')'))
  some (⟨visibility, name, byteLength cs - byteLength list, parameters⟩, rest)

/-- The texts of the comment lines in a run of lines, the nearest first, up to the first line that
is neither a comment nor blank. -/
def commentRun : List (List Char) → List (List Char)
  | [] => []
  | line :: above =>
    let line := trim line
    if line = [] then commentRun above
    else match strip? ['/', '/'] line with
      | some comment => trim (comment.dropWhile (· == '/')) :: commentRun above
      | none => []

/-- The documentation that the comment lines above the given line make up, if there is any. -/
def documentation? (ls : List (List Char)) (line : Nat) : Option String :=
  let doc := trim (joinWith ['\n'] (commentRun (ls.take line).reverse).reverse)
  if doc = [] then none else some (String.ofList doc)

/-- The symbol for a declaration found in the scrubbed form of `text`. -/
def ofFound (text : List Char) (qualifier : Option String) (found : Found Head) : Symbol :=
  let head := found.value
  let start := byteLength found.before + head.parametersAt
  let raw := trim (sliceBytes start (start + byteLength head.parameters) text)
  let line := lineFeeds (takeBytes (byteLength found.before) text)
  let name := String.ofList head.name
  { name
    qualifiedName :=
      match qualifier with
      | some q => if q = "" then name else q ++ "." ++ name
      | none => name
    rawParameters := String.ofList raw
    documentation := (documentation? (lines text) line).getD head.visibility.sentence
    visibility := head.visibility
    location := ⟨none, line⟩ }

/-- The functions that the text declares and that the scope shows, in the order of the text.  Their
names are qualified when a qualifier is given. -/
def scan (text : String) (qualifier : Option String) (scope : Scope) : List Symbol :=
  ((findAll wordStart head? (scrub text.toList)).filter fun found =>
      scope == .current || found.value.visibility == .exported).map
    (ofFound text.toList qualifier)

end Symbol

end LanguageServer
