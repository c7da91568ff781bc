import LanguageServer.Text.WordRanges

/-!
# Classes of characters

The scanners of this library tell characters apart by four classes.

* A *blank* is a character with the property White_Space.  Blanks separate the words of a
  declaration and are what trimming removes.
* A *word character* belongs to a word in any script.  A declared name goes on for as long as
  there are word characters, and a keyword counts only where no word character stands before it.
* A *name start* and a *name part* are the plain ASCII letters, digits and underscore: every name
  begins with the first, and module paths and aliases consist of the second.

The two plain classes are decided by comparison.  Word characters outside ASCII are looked up in
`wordRanges`; below 0x80 the class is the same as that of name parts (`isWord_eq_isNamePart`), so
statements about plain source text never meet the table.
-/

namespace LanguageServer.Text

/-! ## Blanks -/

/-- Is `c` a blank, that is a character with the property White_Space? -/
def isBlank (c : Char) : Bool :=
  let n := c.toNat
  (0x9 ≤ n && n ≤ 0xd) || n == 0x20 || n == 0x85 || n == 0xa0 || n == 0x1680 ||
    (0x2000 ≤ n && n ≤ 0x200a) || n == 0x2028 || n == 0x2029 || n == 0x202f || n == 0x205f ||
    n == 0x3000

/-- Is `c` one of the five blanks that a plain ASCII scanner steps over? -/
def isPlainBlank (c : Char) : Bool :=
  c == ' ' || c == '\t' || c == '\n' || c == '\x0c' || c == '\r'

/-- The text without the blanks at its beginning. -/
def trimStart (cs : List Char) : List Char :=
  cs.dropWhile isBlank

/-- The text without the blanks at its end. -/
def trimEnd (cs : List Char) : List Char :=
  (cs.reverse.dropWhile isBlank).reverse

/-- The text without the blanks at either end. -/
def trim (cs : List Char) : List Char :=
  trimEnd (trimStart cs)

/-- Does the text consist of blanks only? -/
def isBlankText (cs : List Char) : Bool :=
  cs.all isBlank

/-- The maximal runs of characters that are not blank, in order. -/
def fields : List Char → List (List Char)
  | [] => []
  | c :: cs =>
    if isBlank c then fields cs
    else match cs with
      | [] => [[c]]
      | d :: _ =>
        if isBlank d then [c] :: fields cs
        else match fields cs with
          | [] => [[c]]
          | f :: fs => (c :: f) :: fs

/-! ## Names and words -/

/-- Can `c` begin a name? -/
def isNameStart (c : Char) : Bool :=
  c.isAlpha || c == '_'

/-- Can `c` continue a name that is written in plain ASCII? -/
def isNamePart (c : Char) : Bool :=
  c.isAlphanum || c == '_'

/-- Does `n` lie in one of the given ranges, which are listed in increasing order? -/
def inRanges (n : Nat) : List (Nat × Nat) → Bool
  | [] => false
  | (low, high) :: rs => if n < low then false else n ≤ high || inRanges n rs

/-- Is `c` a word character? -/
def isWord (c : Char) : Bool :=
  if c.toNat < 0x80 then isNamePart c else inRanges c.toNat wordRanges

/-- Is `c` a character of the words that hover, definition and signature help look up: a plain
name part, the dot of a qualified name or the sign of an attribute? -/
def isLookupPart (c : Char) : Bool :=
  isNamePart c || c == '.' || c == '@'

/-- In plain ASCII text the word characters are the name parts. -/
theorem isWord_eq_isNamePart {c : Char} (h : c.toNat < 0x80) : isWord c = isNamePart c := by
  simp [isWord, h]

end LanguageServer.Text
