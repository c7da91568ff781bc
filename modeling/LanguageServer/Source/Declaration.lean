import LanguageServer.Source.Find
import LanguageServer.Source.Scrub

/-!
# Declarations on a single line

The outline and the search for a definition look at a script line by line.  This file recognises
what a line declares.

A *function line* holds `fn name(...)` with the parameter list closed on the same line; the list is
taken up to the last closing parenthesis of the line.  A *variable line* holds `let name` or
`mut name`, where `let` may be followed by `mut`, and a type may follow after a colon.  A name in
capitals, digits and underscores makes the variable a constant.

All of them are looked for in the scrubbed line, and the first one found counts.
-/

namespace LanguageServer

open Text Source

/-! ## Functions -/

/-- A function declared on a line. -/
structure FunctionLine where
  name : String
  /-- The parameter list as written, with its parentheses. -/
  parameters : String
deriving DecidableEq, Repr

namespace FunctionLine

/-- The beginning of the text up to and including the last occurrence of the character. -/
def throughLast? (c : Char) (cs : List Char) : Option (List Char) :=
  match cs.reverse.dropWhile (· != c) with
  | [] => none
  | found => some found.reverse

/-- What the head of a function on a line says. -/
structure Head where
  name : List Char
  /-- The bytes from the keyword to the parameter list. -/
  parametersAt : Nat
  /-- The parameter list in scrubbed form, with its parentheses. -/
  parameters : List Char

/-- Reads the keyword and the name of a function. -/
def named? : Reader (List Char) := fun cs => do
  let rest ← strip? ['f', 'n'] cs
  let rest ← skipBlanks1? rest
  name? isWord rest

/-- Reads the head of a function up to the last closing parenthesis before the next line feed. -/
def head? : Reader Head := fun cs => do
  let (name, rest) ← named? cs
  let list := skipBlanks rest
  let body ← strip? ['('] list
  let inner ← throughLast? ')' (body.takeWhile (· != '\n'))
  some (⟨name, byteLength cs - byteLength list, '(' :: inner⟩, body.drop inner.length)

/-- The function that the line declares. -/
def find? (line : String) : Option FunctionLine :=
  (findAll wordStart head? (scrubLine line.toList)).head?.map fun found =>
    let head := found.value
    let start := byteLength found.before + head.parametersAt
    { name := String.ofList head.name
      parameters :=
        String.ofList (sliceBytes start (start + byteLength head.parameters) line.toList) }

/-- Does the line declare a function of the given name? -/
def declares (name : String) (line : List Char) : Bool :=
  (findAll wordStart named? (scrubLine line)).any fun found => String.ofList found.value == name

/-- The number of the first line of the text that declares a function of the given name. -/
def findIn? (text : String) (name : String) : Option Nat :=
  (lines text.toList).findIdx? (declares name)

end FunctionLine

/-! ## Variables -/

/-- A variable declared on a line. -/
structure VariableLine where
  name : String
  type : Option String
  isMutable : Bool
deriving DecidableEq, Repr

namespace VariableLine

/-- Is the variable named like a constant: in capitals, digits and underscores only? -/
def isConstant (v : VariableLine) : Bool :=
  v.name ≠ "" && v.name.toList.all fun c => c.isUpper || c.isDigit || c == '_'

/-- Is `c` a character of a type? -/
def isTypePart (c : Char) : Bool :=
  isNamePart c || c == '<' || c == '>'

/-- Reads a colon and a type, with blanks before both. -/
def type? : Reader (List Char) := fun cs => do
  let rest ← strip? [':'] (skipBlanks cs)
  let rest := skipBlanks rest
  match rest.takeWhile isTypePart with
  | [] => none
  | type => some (type, rest.dropWhile isTypePart)

/-- Reads `mut`, blanks and a name. -/
def mutableName? : Reader (List Char) := fun cs => do
  let rest ← strip? ['m', 'u', 't'] cs
  let rest ← skipBlanks1? rest
  name? isWord rest

/-- Reads what follows the keyword of a declaration: perhaps `mut`, then a name.  Where no name
follows it, `mut` is the name itself.  Says whether `mut` was there. -/
def target? : Reader (Bool × List Char) := fun cs =>
  match mutableName? cs with
  | some (name, rest) => some ((true, name), rest)
  | none => (name? isWord cs).map fun (name, rest) => ((false, name), rest)

/-- Reads a declaration up to its type. -/
def read? : Reader VariableLine := fun cs => do
  let (isMutable, rest) ←
    match strip? ['l', 'e', 't'] cs with
    | some rest => some (false, rest)
    | none => (strip? ['m', 'u', 't'] cs).map (true, ·)
  let rest ← skipBlanks1? rest
  let ((marked, name), rest) ← target? rest
  let (type, rest) :=
    match type? rest with
    | some (type, rest) => (some (String.ofList type), rest)
    | none => (none, rest)
  some (⟨String.ofList name, type, isMutable || marked⟩, rest)

/-- The variable that the line declares. -/
def find? (line : String) : Option VariableLine :=
  (findAll wordStart read? (scrubLine line.toList)).head?.map Found.value

end VariableLine

end LanguageServer
