import LanguageServer.Text.Table
import LanguageServer.Text.Class
import LanguageServer.Domain.CompositionTable

/-!
# The composed form of a text

A letter with marks can be written as one character or as several.  The composed form of a text,
normal form C, takes every character apart, puts the marks of a letter into order and then composes
as much as there is a character for.  Texts that only differ in how they write letters with marks
have the same composed form.

Marks have a class.  Marks of different classes stand at different sides of the letter, so their
order does not matter and is made increasing; marks of one class stay in their order.  A mark is
composed with the letter before it when no mark between them has the same class or a higher one.

Korean syllables are composed by computation: a syllable is determined by the number of its lead, of
its vowel and of its tail, and no tail counts as zero.
-/

namespace LanguageServer.Domain

open Text

/-! ## Tables -/

/-- A composed code point and the two that it is composed of. -/
structure Composite where
  whole : Nat
  first : Nat
  second : Nat
deriving DecidableEq, Repr

/-- The composed code point that a row gives. -/
def Composite.ofRow? : List Nat → Option Composite
  | [whole, first, second] => some ⟨whole, first, second⟩
  | _ => none

/-- The composed code points. -/
def composites : List Composite := (tableRows compositionLines).filterMap Composite.ofRow?

/-- The rows of combining classes. -/
def classes : List (List Nat) := tableRows classLines

/-- The marks. -/
def marks : List (Nat × Nat) := tableRanges markLines

/-- Is the character a mark? -/
def isMark (c : Char) : Bool :=
  inRanges c.toNat marks

/-- The combining class of a character; zero when it does not combine. -/
def combiningClass (c : Char) : Nat :=
  (classes.findSome? fun
    | [low, high, value] => if low ≤ c.toNat && c.toNat ≤ high then some value else none
    | _ => none).getD 0

/-- The class of the marks that take the vowel of a letter away. -/
def viramaClass : Nat := 9

/-! ## Korean syllables -/

/-- The first syllable, lead, vowel and the code point before the first tail. -/
def syllableStart : Nat := 0xAC00

/-- The first lead. -/
def leadStart : Nat := 0x1100

/-- The first vowel. -/
def vowelStart : Nat := 0x1161

/-- The code point before the first tail. -/
def tailStart : Nat := 0x11A7

/-- The number of leads, vowels and tails, counting the missing tail. -/
def leadCount : Nat := 19

/-- The number of vowels. -/
def vowelCount : Nat := 21

/-- The number of tails, counting the missing one. -/
def tailCount : Nat := 28

/-- The parts of a syllable. -/
def syllableParts? (n : Nat) : Option (List Nat) :=
  if syllableStart ≤ n && n < syllableStart + leadCount * vowelCount * tailCount then
    let index := n - syllableStart
    let tail := index % tailCount
    some ([leadStart + index / (vowelCount * tailCount),
      vowelStart + index % (vowelCount * tailCount) / tailCount] ++
        if tail = 0 then [] else [tailStart + tail])
  else none

/-- The syllable of a lead and a vowel, or of a syllable without a tail and a tail. -/
def syllable? (first second : Nat) : Option Nat :=
  if leadStart ≤ first && first < leadStart + leadCount &&
      vowelStart ≤ second && second < vowelStart + vowelCount then
    some (syllableStart +
      ((first - leadStart) * vowelCount + (second - vowelStart)) * tailCount)
  else if syllableStart ≤ first &&
      first < syllableStart + leadCount * vowelCount * tailCount &&
      (first - syllableStart) % tailCount == 0 &&
      tailStart < second && second < tailStart + tailCount then
    some (first + (second - tailStart))
  else none

/-! ## Taking apart -/

/-- The most often that a character is taken apart in a row. -/
def depth : Nat := 4

/-- The code points that a code point consists of, after at most the given number of steps. -/
def partsWithin : Nat → Nat → List Nat
  | 0, n => [n]
  | steps + 1, n =>
    match syllableParts? n with
    | some parts => parts
    | none =>
      match composites.find? (·.whole == n) with
      | some composite => partsWithin steps composite.first ++ partsWithin steps composite.second
      | none => [n]

/-- The text with every character taken apart. -/
def takeApart (cs : List Char) : List Char :=
  cs.flatMap fun c => (partsWithin depth c.toNat).map Char.ofNat

/-- Puts a character in front of a text in order, behind marks of lower classes. -/
def insertMark (c : Char) : List Char → List Char
  | [] => [c]
  | d :: ds =>
    if 0 < combiningClass d && combiningClass d < combiningClass c then d :: insertMark c ds
    else c :: d :: ds

/-- The text with the marks of every letter in order. -/
def orderMarks : List Char → List Char
  | [] => []
  | c :: cs => insertMark c (orderMarks cs)

/-! ## Putting together -/

/-- The character that two characters are composed to. -/
def composed? (c d : Char) : Option Char :=
  ((syllable? c.toNat d.toNat).or
    ((composites.find? fun composite =>
      composite.first == c.toNat && composite.second == d.toNat).map (·.whole))).map Char.ofNat

/-- Does a mark between a letter and the character, the last of which is given, keep them apart? -/
def isApart (last : Option Char) (c : Char) : Bool :=
  last.any fun mark => combiningClass c ≤ combiningClass mark

/-- Composes a letter, the marks after it that stay, last one first, and the text that follows. -/
def composeAfter (letter : Char) (marks : List Char) : List Char → List Char
  | [] => letter :: marks.reverse
  | c :: cs =>
    match if isApart marks.head? c then none else composed? letter c with
    | some whole => composeAfter whole marks cs
    | none =>
      if combiningClass c = 0 then letter :: marks.reverse ++ composeAfter c [] cs
      else composeAfter letter (c :: marks) cs

/-- Composes a text whose marks are in order. -/
def compose : List Char → List Char
  | [] => []
  | c :: cs => if combiningClass c = 0 then composeAfter c [] cs else c :: compose cs

/-- The composed form of a text. -/
def composedForm (cs : List Char) : List Char :=
  compose (orderMarks (takeApart cs))

end LanguageServer.Domain
