import LanguageServer.Source.Outline

/-!
# Building an outline in an array

The outline of a script can be built without trees.  All nodes lie in one array, in the order of
their lines.  A node holds the positions of the nodes inside it, and the open functions are a stack
of positions.  A declaration gets the next free position, which is noted at once in the innermost
open function or among the roots; to close a function only writes the line of its end.  The trees
are put together at the very end.

Whatever looks up a position fails where the array has none.  A tree has no more levels than the
array has nodes, so no deeper tree is put together.
-/

namespace LanguageServer

open Text Source

namespace Outline

/-- A node in the array. -/
structure Slot where
  entry : Entry
  start : Nat
  stop : Nat
  /-- The positions of the nodes inside it, in the order of their lines. -/
  children : List Nat
deriving DecidableEq, Repr

/-- The outline while it is being built in an array. -/
structure Arena where
  slots : Array Slot
  /-- The positions of the roots, in the order of their lines. -/
  roots : List Nat
  /-- The positions of the open functions, and the depths where they were opened; the last function
  comes first. -/
  stack : List (Nat × Int)
  depth : Int
  mark : Option String
deriving DecidableEq, Repr

namespace Arena

/-- The outline before the first line. -/
def empty : Arena := ⟨#[], [], [], 0, none⟩

/-- Changes the node at a position. -/
def change (index : Nat) (f : Slot → Slot) (slots : Array Slot) : Option (Array Slot) :=
  if index < slots.size then some (slots.modify index f) else none

/-- Notes a position in the innermost open function, or among the roots. -/
def link (index : Nat) (a : Arena) : Option Arena :=
  match a.stack with
  | [] => some { a with roots := a.roots ++ [index] }
  | (parent, _) :: _ => do
    let slots ← change parent
      (fun slot => { slot with children := slot.children ++ [index] }) a.slots
    return { a with slots }

/-- Declares an entry on the given line.  A function becomes the innermost open one, unless its body
lies within its line. -/
def declare (line : Nat) (hasBody : Bool) (entry : Entry) (a : Arena) : Option Arena := do
  let index := a.slots.size
  let a ← link index { a with slots := a.slots.push ⟨entry, line, line, []⟩ }
  if entry.kind = .function ∧ hasBody = false then
    return { a with stack := (index, a.depth) :: a.stack }
  else return a

/-- Applies one closing brace on the given line. -/
def closeBrace (line : Nat) (a : Arena) : Option Arena :=
  let a := { a with depth := a.depth - 1 }
  match a.stack with
  | [] => some a
  | (index, depth) :: stack =>
    if depth = a.depth then do
      let slots ← change index (fun slot => { slot with stop := line }) a.slots
      return { a with slots, stack }
    else some a

/-- Applies the given number of closing braces. -/
def closeBraces (line : Nat) : Nat → Arena → Option Arena
  | 0, a => some a
  | n + 1, a => do closeBraces line n (← closeBrace line a)

/-- Takes one line into the outline. -/
def step (a : Arena) (number : Nat) (line : List Char) : Option Arena := do
  let reading := readLine a.mark line
  let a ← reading.entry.elim (some a) (a.declare number reading.hasBody ·)
  let a ← a.closeBraces number reading.closes
  return { a with depth := a.depth + reading.opens, mark := reading.mark }

/-- The tree of the node at a position, with at most the given number of levels. -/
def assemble (slots : Array Slot) : Nat → Nat → Option OutlineNode
  | 0, _ => none
  | levels + 1, index => do
    let slot ← slots[index]?
    let children ← slot.children.mapM (assemble slots levels)
    return ⟨slot.entry.name, slot.entry.kind, slot.entry.detail, slot.start, slot.stop, children⟩

/-- The outline of a text, built in an array. -/
def build (text : String) : Option (List OutlineNode) := do
  let a ← (lines text.toList).zipIdx.foldlM (fun a (line, number) => a.step number line) empty
  a.roots.mapM (assemble a.slots a.slots.size)

end Arena

end Outline

end LanguageServer
