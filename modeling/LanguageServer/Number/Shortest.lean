import LanguageServer.Number.Binary

/-!
# The shortest decimal

Many decimals round to the same number of 64 bits.  They form an interval around it, which contains
its ends exactly if the significand is even.  `Binary.shortest` gives the decimal of the interval
with the fewest digits, and of several such the one nearest to the number.

For each number of digits there are at most two candidates: the decimals of this length just below
and just above the number.  Seventeen digits are always enough.
-/

namespace LanguageServer

/-- The number `digits * 10 ^ exponent`. -/
structure Decimal where
  digits : Nat
  exponent : Int
deriving DecidableEq, Repr

/-- The fractions with a common denominator at which an interval begins, is centred and ends. -/
structure Interval where
  low : Nat
  middle : Nat
  high : Nat
  denominator : Nat
  /-- Whether the ends belong to the interval. -/
  isClosed : Bool
deriving DecidableEq, Repr

namespace Binary

/-- The interval of the values that round to a number.  Below a power of two numbers lie closer
together than above it. -/
def interval (x : Binary) : Interval :=
  let isPower := x.significand == Nat.pow 2 (precision - 1) && x.exponent != 0
  let factor := Nat.pow 2 x.exponent
  { low := (4 * x.significand - if isPower then 1 else 2) * factor
    middle := 4 * x.significand * factor
    high := (4 * x.significand + 2) * factor
    denominator := Nat.pow 2 (scale + 2)
    isClosed := x.significand % 2 == 0 }

end Binary

namespace Interval

/-- Does the natural number `value`, times the power of ten, lie in the interval? -/
def holds (interval : Interval) (value : Nat) (exponent : Int) : Bool :=
  let value := value * Nat.pow 10 exponent.toNat * interval.denominator
  let factor := Nat.pow 10 (-exponent).toNat
  if interval.isClosed then interval.low * factor ≤ value && value ≤ interval.high * factor
  else interval.low * factor < value && value < interval.high * factor

/-- A power of ten by which the least number becomes greater than one. -/
def shift : Nat := 400

/-- The exponent of the first power of ten above the middle. -/
def magnitude (interval : Interval) : Int :=
  (Nat.toDigits 10 (interval.middle * Nat.pow 10 shift / interval.denominator)).length - shift

/-- The decimal of the interval with so many digits that is nearest to the middle.  Of two that are
equally near it is the even one. -/
def candidate? (interval : Interval) (count : Nat) : Option Decimal :=
  let exponent := interval.magnitude - count
  let numerator := interval.middle * Nat.pow 10 (-exponent).toNat
  let denominator := interval.denominator * Nat.pow 10 exponent.toNat
  let near := Binary.roundDiv numerator denominator
  let below := numerator / denominator
  let far := if near = below then below + 1 else below
  if interval.holds near exponent then some ⟨near, exponent⟩
  else if interval.holds far exponent then some ⟨far, exponent⟩
  else none

end Interval

namespace Decimal

/-- The decimal without zeros at its end, of which the given number is taken away at most. -/
def stripUpTo : Nat → Decimal → Decimal
  | 0, d => d
  | count + 1, d =>
    if d.digits % 10 == 0 then stripUpTo count ⟨d.digits / 10, d.exponent + 1⟩ else d

end Decimal

/-- The most digits that are needed. -/
def Decimal.digitLimit : Nat := 17

/-- The decimal with the fewest digits that rounds to a number other than zero. -/
def Binary.shortest (x : Binary) : Decimal :=
  let interval := x.interval
  (((List.range Decimal.digitLimit).findSome? fun n => interval.candidate? (n + 1)).map
    (Decimal.stripUpTo Decimal.digitLimit)).getD ⟨0, 0⟩

end LanguageServer
