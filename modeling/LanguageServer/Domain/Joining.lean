import LanguageServer.Text.Table
import LanguageServer.Text.Class
import LanguageServer.Domain.JoiningTable
import LanguageServer.Domain.Composition

/-!
# Joiners

Two invisible characters tell how the letters around them are joined.  In a label they are allowed
only where they can be seen: both after a mark that takes the vowel of a letter away, and the
non-joiner also between letters that would join without it.
-/

namespace LanguageServer.Domain

open Text

/-- The character that keeps letters from joining. -/
def nonJoiner : Char := Char.ofNat 0x200C

/-- The character that makes letters join. -/
def joiner : Char := Char.ofNat 0x200D

/-- The characters that join with what is after them. -/
def joinsAfter : List (Nat × Nat) := tableRanges leftJoiningLines ++ tableRanges dualJoiningLines

/-- The characters that join with what is before them. -/
def joinsBefore : List (Nat × Nat) := tableRanges rightJoiningLines ++ tableRanges dualJoiningLines

/-- The characters that letters join across. -/
def transparent : List (Nat × Nat) := tableRanges transparentLines

/-- Does the character lie in one of the ranges, in whatever order they are listed? -/
def isIn (ranges : List (Nat × Nat)) (c : Char) : Bool :=
  ranges.any fun (low, high) => low ≤ c.toNat && c.toNat ≤ high

/-- Does the text begin, transparent characters aside, with one that joins? -/
def beginsWith (joining : List (Nat × Nat)) (cs : List Char) : Bool :=
  cs.find? (fun c => isIn joining c || !isIn transparent c) |>.any (isIn joining)

/-- May the character follow the text, given backwards, and stand before the rest of the label? -/
def isJoinable (before : List Char) (c : Char) (after : List Char) : Bool :=
  if c = nonJoiner || c = joiner then
    before.head?.any (fun mark => combiningClass mark == viramaClass) ||
      (c == nonJoiner && beginsWith joinsAfter before && beginsWith joinsBefore after)
  else true

/-- Are all joiners of the label, after the given text, where they are allowed? -/
def joinersVisible (before : List Char) : List Char → Bool
  | [] => true
  | c :: cs => isJoinable before c cs && joinersVisible (c :: before) cs

end LanguageServer.Domain
