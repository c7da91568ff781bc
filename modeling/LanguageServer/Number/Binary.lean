/-!
# Numbers of 64 bits

A number of 64 bits is a whole number of at most 53 bits times a power of two.  Every quotient of
natural numbers has a nearest such number (`Binary.nearest?`), unless it is too great.  Products and
quotients of these numbers are the nearest numbers to the exact ones.

Only numbers that are not negative are considered; whoever needs a sign keeps it beside the number.
-/

namespace LanguageServer

/-- The number `significand * 2 ^ exponent / 2 ^ 1074`. -/
structure Binary where
  significand : Nat
  exponent : Nat
deriving DecidableEq, Repr

namespace Binary

/-- The number of bits of a significand. -/
def precision : Nat := 53

/-- The power of two that the least number divides one into. -/
def scale : Nat := 1074

/-- The greatest exponent. -/
def greatestExponent : Nat := 2045

/-- The number zero. -/
def zero : Binary := ⟨0, 0⟩

/-- Is the number zero? -/
def isZero (x : Binary) : Bool :=
  x.significand == 0

/-- The natural number nearest to a quotient.  Of two that are equally near it is the even one. -/
def roundDiv (numerator denominator : Nat) : Nat :=
  let quotient := numerator / denominator
  let twice := 2 * (numerator % denominator)
  if twice < denominator || (twice == denominator && quotient % 2 == 0) then quotient
  else quotient + 1

/-- The number nearest to a quotient, if it is not too great. -/
def nearest? (numerator denominator : Nat) : Option Binary :=
  let scaled := numerator * Nat.pow 2 scale
  let exponent := (scaled / denominator).log2 + 1 - precision
  let significand := roundDiv scaled (denominator * Nat.pow 2 exponent)
  let rounded : Binary :=
    if significand < Nat.pow 2 precision then ⟨significand, exponent⟩
    else ⟨significand / 2, exponent + 1⟩
  if greatestExponent < rounded.exponent then none else some rounded

/-- The product of two numbers. -/
def times? (x y : Binary) : Option Binary :=
  nearest? (x.significand * y.significand * Nat.pow 2 (x.exponent + y.exponent))
    (Nat.pow 2 (2 * scale))

/-- The quotient of two numbers. -/
def over? (x y : Binary) : Option Binary :=
  nearest? (x.significand * Nat.pow 2 x.exponent) (y.significand * Nat.pow 2 y.exponent)

end Binary

end LanguageServer
