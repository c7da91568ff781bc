import LanguageServer.Number.Shortest

/-!
# Numbers in JSON text

A number in a JSON text that is no integer of 64 bits is a `Numeral`: its digits and its exponent as
they were written.  It is written again as the number of 64 bits that it stands for
(`Numeral.text`): with the fewest digits that tell this number from others, positionally if it is
neither very great nor very small, and otherwise with an exponent.

The value of a numeral is computed quickly rather than exactly.  As many of its digits as fit into
64 bits make up a whole number, which is then multiplied or divided by a power of ten
(`Numeral.value?`).
-/

namespace LanguageServer

/-- A number as it was written. -/
structure Numeral where
  isNegative : Bool
  /-- The digits before the point. -/
  whole : List Nat
  /-- The digits after the point. -/
  fraction : List Nat
  exponent : Int
deriving DecidableEq, Repr

namespace Numeral

/-! ## The value of a numeral -/

/-- What whole numbers have to stay below. -/
def wordLimit : Nat := 0x10000000000000000

/-- Appends digits to a whole number as long as it stays below the limit.  Returns the number and
how many digits are left. -/
def append (significand : Nat) : List Nat → Nat × Nat
  | [] => (significand, 0)
  | digit :: digits =>
    let next := 10 * significand + digit
    if next < wordLimit then append next digits else (significand, digits.length + 1)

/-- The greatest exponent of a power of ten in one step. -/
def stepLimit : Nat := 308

/-- A power of ten. -/
def power? (exponent : Nat) : Option Binary :=
  Binary.nearest? (Nat.pow 10 exponent) 1

/-- The number divided by a power of ten, in at most so many steps.  After a few steps nothing is
left of it. -/
def divide? : Nat → Binary → Nat → Option Binary
  | 0, _, _ => some .zero
  | steps + 1, x, exponent =>
    if exponent ≤ stepLimit then do x.over? (← power? exponent)
    else if x.isZero then some x
    else do divide? steps (← x.over? (← power? stepLimit)) (exponent - stepLimit)

/-- The number times a power of ten. -/
def multiply? (x : Binary) (exponent : Nat) : Option Binary :=
  if exponent ≤ stepLimit then do x.times? (← power? exponent)
  else if x.isZero then some x
  else none

/-- The value of the numeral without its sign, if it is not too great.  Digits before the point that
do not fit count as zeros, digits after it that do not fit are dropped. -/
def value? (numeral : Numeral) : Option Binary := do
  let (whole, skipped) := append 0 numeral.whole
  let (significand, dropped) := append whole numeral.fraction
  let exponent := numeral.exponent + skipped - (numeral.fraction.length - dropped : Nat)
  let x ← Binary.nearest? significand 1
  if 0 ≤ exponent then multiply? x exponent.toNat else divide? 3 x (-exponent).toNat

/-! ## Writing numerals -/

/-- How many places a number may have before the point and be written positionally. -/
def mostPlaces : Int := 16

/-- How many zeros after the point make a number too small to be written positionally. -/
def mostZeros : Int := 5

/-- Zeros. -/
def zeros (count : Int) : String :=
  String.ofList (List.replicate count.toNat '0')

/-- An exponent with its sign. -/
def exponentText (exponent : Int) : String :=
  "e" ++ (if 0 ≤ exponent then "+" else "-") ++ toString exponent.natAbs

/-- The decimal as it is written. -/
def layout (decimal : Decimal) : String :=
  let digits := Nat.toDigits 10 decimal.digits
  let places := digits.length + decimal.exponent
  let upTo := String.ofList (digits.take places.toNat)
  let after := String.ofList (digits.drop places.toNat)
  if 0 ≤ decimal.exponent && places ≤ mostPlaces then upTo ++ zeros decimal.exponent ++ ".0"
  else if 0 < places && places ≤ mostPlaces then upTo ++ "." ++ after
  else if -mostZeros < places && places ≤ 0 then "0." ++ zeros (-places) ++ after
  else
    let more := String.ofList (digits.drop 1)
    String.ofList (digits.take 1) ++ (if more = "" then "" else "." ++ more) ++
      exponentText (places - 1)

/-- The numeral as it is written again.  A number that is too great is not written. -/
def text (numeral : Numeral) : String :=
  match numeral.value? with
  | none => "null"
  | some x =>
    (if numeral.isNegative then "-" else "") ++ if x.isZero then "0.0" else layout x.shortest

end Numeral

end LanguageServer
