import LanguageServer.Text.Split
import LanguageServer.Text.Percent

/-!
# Hosts given by four bytes

A host may be given by a number of 32 bits.  It is shown as its four bytes with dots between them.
It may be written with fewer parts; the last part then stands for all remaining bytes.  A part that
begins with `0x` is hexadecimal and one that begins with another zero is octal.
-/

namespace LanguageServer

open Text

/-- A host given by a number of 32 bits. -/
structure Ipv4 where
  value : Nat
deriving DecidableEq, Repr

namespace Ipv4

/-- The address as it is shown. -/
def text (address : Ipv4) : String :=
  ".".intercalate ([24, 16, 8, 0].map fun bits => toString (address.value / Nat.pow 2 bits % 256))

/-- The number that digits of a base stand for. -/
def number? (base : Nat) (cs : List Char) : Option Nat :=
  (cs.mapM fun c => (hexValue? c).filter (· < base)).map (·.foldl (base * · + ·) 0)

/-- The number that a part stands for.  Nothing after the sign of a base stands for zero. -/
def part? : List Char → Option Nat
  | [] => none
  | '0' :: 'x' :: digits => number? 16 digits
  | '0' :: 'X' :: digits => number? 16 digits
  | ['0'] => some 0
  | '0' :: digits => number? 8 digits
  | digits => number? 10 digits

/-- The parts of a host.  A dot at its end does not count. -/
def parts (host : List Char) : List (List Char) :=
  let parts := splitOn '.' host
  if 1 < parts.length && parts.getLast? == some [] then parts.dropLast else parts

/-- Is the host meant to be a number, because its last part is one? -/
def isMeant (host : List Char) : Bool :=
  (parts host).getLast?.any fun part =>
    (part != [] && part.all (·.isDigit)) || (part? part).isSome

/-- The address with the given numbers, all but the last of which are bytes. -/
def ofNumbers? (numbers : List Nat) : Option Ipv4 :=
  match numbers.getLast? with
  | none => none
  | some last =>
    let bytes := numbers.dropLast
    let limit := Nat.pow 2 (8 * (4 - bytes.length))
    if 3 < bytes.length || bytes.any (255 < ·) || limit ≤ last then none
    else some ⟨bytes.foldl (256 * · + ·) 0 * limit + last⟩

/-- Reads an address. -/
def parse? (host : List Char) : Option Ipv4 := do
  ofNumbers? (← (parts host).mapM part?)

end Ipv4

end LanguageServer
