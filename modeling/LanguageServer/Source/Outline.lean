import LanguageServer.Source.Brace
import LanguageServer.Source.Declaration

/-!
# The outline of a script

The outline is the forest of the functions and variables that a script declares, one node for each
line that declares something.  A node belongs to the innermost function that is open on its line,
and is a root where none is.

Lines are taken in order, and the braces on them give the depth of nesting; braces in literals and
comments, and blocks that lie within one line, do not count.  A function is opened by its line, at
the depth before the braces of that line, and is closed by the closing brace that brings the depth
back there.  On every line closing braces are applied before opening ones.  A function whose body
lies within its line is never open, and one that is never closed ends on the line it starts on.

An attribute is kept for the next function and shown with its parameters; a blank line drops it.

Line numbers and depths have no bound here.  In words of 32 bits they are the same for every text
with less than 2 ^ 31 braces and less than 2 ^ 32 lines.
-/

namespace LanguageServer

open Text Source

/-- What a node of the outline declares. -/
inductive OutlineKind where
  | function
  | binding
  | constant
deriving DecidableEq, Repr

/-- A declaration in the outline, with the declarations inside it. -/
structure OutlineNode where
  name : String
  kind : OutlineKind
  detail : String
  start : Nat
  stop : Nat
  children : List OutlineNode
deriving Repr

namespace Outline

/-- What one line tells the outline. -/
structure Entry where
  name : String
  kind : OutlineKind
  detail : String
deriving DecidableEq, Repr

/-- A function whose block is not closed yet, with the nodes inside it so far, the last one
first. -/
structure OpenFunction where
  entry : Entry
  start : Nat
  depth : Int
  inside : List OutlineNode
deriving Repr

/-- The outline while it is being built: the finished roots and the open functions, the last ones
first, the depth of nesting, and as `mark` the attribute that waits for a function. -/
structure Builder where
  roots : List OutlineNode
  opened : List OpenFunction
  depth : Int
  mark : Option String
deriving Repr

/-- The outline before the first line. -/
def Builder.empty : Builder := ⟨[], [], 0, none⟩

namespace Builder

/-- Adds a node to the innermost open function, or to the roots. -/
def attach (node : OutlineNode) (b : Builder) : Builder :=
  match b.opened with
  | [] => { b with roots := node :: b.roots }
  | o :: os => { b with opened := { o with inside := node :: o.inside } :: os }

/-- Ends the innermost open function on the given line. -/
def finish (stop : OpenFunction → Nat) (b : Builder) : Builder :=
  match b.opened with
  | [] => b
  | o :: os =>
    attach ⟨o.entry.name, o.entry.kind, o.entry.detail, o.start, stop o, o.inside.reverse⟩
      { b with opened := os }

/-- Applies one closing brace on the given line. -/
def closeBrace (line : Nat) (b : Builder) : Builder :=
  let b := { b with depth := b.depth - 1 }
  match b.opened with
  | [] => b
  | o :: _ => if o.depth = b.depth then finish (fun _ => line) b else b

/-- Applies the given number of closing braces. -/
def closeBraces (line : Nat) : Nat → Builder → Builder
  | 0, b => b
  | n + 1, b => closeBraces line n (closeBrace line b)

/-- Ends the open functions that are left, the given number of them at most. -/
def finishAll : Nat → Builder → Builder
  | 0, b => b
  | n + 1, b => finishAll n (finish (·.start) b)

end Builder

/-! ## What a line declares -/

/-- Reads an attribute: its sign and its name. -/
def attribute? : Reader (List Char)
  | '@' :: cs => (name? isWord cs).map fun (name, rest) => ('@' :: name, rest)
  | _ => none

/-- The first attribute on a scrubbed line. -/
def attributeOn (scrubbed : List Char) : Option String :=
  (findAll (fun _ => true) attribute? scrubbed).head?.map fun found => String.ofList found.value

/-- The detail of a function: the attribute that waits for it, if any, and its parameter list, which
is not shown when it is empty. -/
def functionDetail (mark : Option String) (parameters : String) : String :=
  let parameters := if parameters = "()" then "" else parameters
  match mark with
  | some a => String.ofList (trimEnd (a ++ " " ++ parameters).toList)
  | none => parameters

/-- The entry for the declaration on a line, when the given attribute waits for a function. -/
def entryOn (mark : Option String) (line : String) : Option Entry :=
  match FunctionLine.find? line with
  | some f => some ⟨f.name, .function, functionDetail mark f.parameters⟩
  | none =>
    (VariableLine.find? line).map fun v =>
      { name := v.name
        kind := if v.isConstant then .constant else .binding
        detail := (v.type.map (": " ++ ·)).getD "" }

/-- Declares an entry on the given line.  A function becomes the innermost open one, unless its body
lies within its line. -/
def Builder.declare (line : Nat) (hasBody : Bool) (entry : Entry) (b : Builder) : Builder :=
  if entry.kind = .function ∧ hasBody = false then
    { b with opened := ⟨entry, line, b.depth, []⟩ :: b.opened }
  else b.attach ⟨entry.name, entry.kind, entry.detail, line, line, []⟩

/-- What is read off a line, when the given attribute waits for a function before it. -/
structure LineReading where
  entry : Option Entry
  /-- Whether blocks lie within the line and none is left open. -/
  hasBody : Bool
  /-- The closing braces outside these blocks. -/
  closes : Nat
  /-- The opening braces outside these blocks. -/
  opens : Nat
  /-- The attribute that waits for a function after the line. -/
  mark : Option String
deriving DecidableEq, Repr

/-- Reads a line. -/
def readLine (mark : Option String) (line : List Char) : LineReading :=
  let scrubbed := scrubLine line
  let braces := dropBlocks scrubbed
  let opens := braces.count '{'
  let found := attributeOn scrubbed
  let waiting := found.or mark
  let entry := entryOn waiting (String.ofList line)
  { entry
    hasBody := scrubbed.contains '{' && opens == 0
    closes := braces.count '}'
    opens
    mark :=
      if entry.any (·.kind = .function) then none
      else if isBlankText line && found.isNone then none
      else waiting }

/-- Takes one line into the outline. -/
def Builder.step (b : Builder) (number : Nat) (line : List Char) : Builder :=
  let reading := readLine b.mark line
  let b := match reading.entry with
    | some entry => b.declare number reading.hasBody entry
    | none => b
  let b := b.closeBraces number reading.closes
  { b with depth := b.depth + reading.opens, mark := reading.mark }

/-- The outline of a text: its roots, in the order of the text. -/
def build (text : String) : List OutlineNode :=
  let b := (lines text.toList).zipIdx.foldl (fun b (line, number) => b.step number line)
    Builder.empty
  (b.finishAll b.opened.length).roots.reverse

end Outline

end LanguageServer
