/-!
# Hexadecimal digits

Digits are read in either case.  For writing them, the case is chosen by the digit for ten.
-/

namespace LanguageServer.Text

/-- The value of a hexadecimal digit. -/
def hexValue? (c : Char) : Option Nat :=
  if '0' ≤ c && c ≤ '9' then some (c.toNat - '0'.toNat)
  else if 'a' ≤ c && c ≤ 'f' then some (c.toNat - 'a'.toNat + 10)
  else if 'A' ≤ c && c ≤ 'F' then some (c.toNat - 'A'.toNat + 10)
  else none

/-- The digit for a number below sixteen, in the case of the given digit for ten. -/
def hexDigit (ten : Char) (n : Nat) : Char :=
  Char.ofNat (if n < 10 then '0'.toNat + n else ten.toNat + (n - 10))

end LanguageServer.Text
