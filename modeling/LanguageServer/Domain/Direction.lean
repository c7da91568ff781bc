import LanguageServer.Text.Table
import LanguageServer.Text.Class
import LanguageServer.Domain.DirectionTable

/-!
# Directions of labels

Some scripts are written from right to left.  In a domain name with such characters every label must
be readable in one way only: it begins with a letter, which gives its direction; it contains no
letters of the other direction; it ends, marks aside, with a letter of its direction or a number;
and from right to left it does not mix Arabic numbers with others.
-/

namespace LanguageServer.Domain

open Text

/-- How a character is written. -/
inductive Direction where
  /-- From left to right. -/
  | left
  /-- From right to left. -/
  | right
  /-- As part of an Arabic number. -/
  | arabic
  /-- As a digit of any other number. -/
  | digit
  /-- Without a direction of its own. -/
  | neutral
  /-- As a mark on what is before it. -/
  | mark
deriving DecidableEq, Repr

/-- The tables of the directions other than from left to right. -/
def directionRanges : List (Direction × List (Nat × Nat)) :=
  [(.right, tableRanges rightLines), (.arabic, tableRanges arabicLines),
    (.digit, tableRanges digitLines), (.neutral, tableRanges neutralLines),
    (.mark, tableRanges markedLines)]

/-- The direction of a character. -/
def direction (c : Char) : Direction :=
  ((directionRanges.find? fun (_, ranges) => inRanges c.toNat ranges).map (·.1)).getD .left

/-- Is the character written from right to left, or part of an Arabic number? -/
def isRightward (c : Char) : Bool :=
  direction c = .right || direction c = .arabic

/-- May the directions follow a letter that is written from left to right? -/
def leftRule (rest : List Direction) : Bool :=
  rest.all (fun d => d != .right && d != .arabic) &&
    ((rest.reverse.dropWhile (· == .mark)).head?.all fun d => d == .left || d == .digit)

/-- May the directions follow a letter that is written from right to left? -/
def rightRule (rest : List Direction) : Bool :=
  rest.all (· != .left) && !(rest.contains .arabic && rest.contains .digit) &&
    ((rest.reverse.dropWhile (· == .mark)).head?.all fun d =>
      d == .right || d == .arabic || d == .digit)

/-- Is the label readable in one way only? -/
def isDirected (label : List Char) : Bool :=
  match label.map direction with
  | [] => true
  | .left :: rest => leftRule rest
  | .right :: rest => rightRule rest
  | _ => false

end LanguageServer.Domain
