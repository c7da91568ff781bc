/-!
# Tables of code points

Large tables of code points are kept as text.  A table is a list of lines.  A line holds rows with a
blank between them, and a row holds hexadecimal numbers with a hyphen between them.
-/

namespace LanguageServer.Text

/-- The value of a digit of a table. -/
def tableDigit (c : Char) : Nat :=
  if c.isDigit then c.toNat - '0'.toNat else c.toNat - 'A'.toNat + 10

/-- Reads rows, after the digits of a number and the numbers before it, last one first. -/
def rowsFrom (number : Nat) (before : List Nat) : List Char → List (List Nat)
  | [] => [(number :: before).reverse]
  | c :: cs =>
    if c = ' ' then (number :: before).reverse :: rowsFrom 0 [] cs
    else if c = '-' then rowsFrom 0 (number :: before) cs
    else rowsFrom (16 * number + tableDigit c) before cs

/-- The rows of a table. -/
def tableRows (lines : List String) : List (List Nat) :=
  lines.flatMap fun line => rowsFrom 0 [] line.toList

/-- The range that a row gives; one number is a range by itself. -/
def rowRange? : List Nat → Option (Nat × Nat)
  | [n] => some (n, n)
  | [low, high] => some (low, high)
  | _ => none

/-- The ranges of a table. -/
def tableRanges (lines : List String) : List (Nat × Nat) :=
  (tableRows lines).filterMap rowRange?

end LanguageServer.Text
