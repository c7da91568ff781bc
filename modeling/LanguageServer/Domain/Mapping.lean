import LanguageServer.Text.Table
import LanguageServer.Text.Class
import LanguageServer.Domain.MappingTable

/-!
# Writing a domain name in one way

Different ways to write a domain name are made one before it is looked at any further: capital
letters become small ones, wide and narrow forms become plain ones, ligatures are taken apart, and
invisible characters are left out.  What remains consists of *admitted* characters.  A character
that is neither admitted nor stands for admitted ones may not be written at all (`spread?`).
-/

namespace LanguageServer.Domain

open Text

/-- A rule that exchanges code points at equal distances for code points at the same distances. -/
structure Shift where
  first : Nat
  last : Nat
  distance : Nat
  target : Nat
deriving DecidableEq, Repr

/-- The rule that a row gives. -/
def Shift.ofRow? : List Nat → Option Shift
  | [first, last, distance, target] => some ⟨first, last, distance, target⟩
  | _ => none

/-- What the rule exchanges a code point for. -/
def Shift.image? (shift : Shift) (n : Nat) : Option Nat :=
  if shift.first ≤ n && n ≤ shift.last && (n - shift.first) % shift.distance == 0 then
    some (shift.target + (n - shift.first))
  else none

/-- The admitted code points. -/
def admitted : List (Nat × Nat) := tableRanges admittedLines

/-- The code points that are left out. -/
def ignored : List (Nat × Nat) := tableRanges ignoredLines

/-- The rules for the code points that are exchanged by rule. -/
def shifts : List Shift := (tableRows shiftedLines).filterMap Shift.ofRow?

/-- The other code points that are exchanged, each at the beginning of a row. -/
def exchanges : List (List Nat) := tableRows exchangedLines

/-- May the character stand in a domain name? -/
def isAdmitted (c : Char) : Bool :=
  inRanges c.toNat admitted

/-- What the character is exchanged for, if it is. -/
def exchange? (c : Char) : Option (List Char) :=
  ((shifts.findSome? (·.image? c.toNat)).map fun n => [Char.ofNat n]).or
    ((exchanges.find? (·.head? == some c.toNat)).map fun row => row.tail.map Char.ofNat)

/-- The admitted characters that a character stands for; none when it may not be written. -/
def spread? (c : Char) : Option (List Char) :=
  if isAdmitted c then some [c]
  else if inRanges c.toNat ignored then some []
  else exchange? c

/-- The text with every character exchanged for those that it stands for. -/
def spreadAll? (cs : List Char) : Option (List Char) :=
  (cs.mapM spread?).map List.flatten

end LanguageServer.Domain
