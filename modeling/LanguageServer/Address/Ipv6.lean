import LanguageServer.Address.Ipv4

/-!
# Hosts given by eight numbers

A host may be given by eight numbers of 16 bits.  They are written in hexadecimal form with colons
between them.  A pair of colons stands, once, for one zero or more.  The last two numbers may be
written as four bytes with dots between them.

In the form in which an address is shown, a pair of colons stands for the longest run of zeros, if
there are two or more; of several runs of this length it is the first.
-/

namespace LanguageServer

open Text

/-- A host given by eight numbers of 16 bits. -/
structure Ipv6 where
  numbers : List Nat
deriving DecidableEq, Repr

namespace Ipv6

/-! ## Showing addresses -/

/-- The numbers in hexadecimal form, with colons between them. -/
def joined (numbers : List Nat) : List Char :=
  joinWith [':'] (numbers.map (Nat.toDigits 16))

/-- How many zeros there are at the beginning. -/
def zeros (numbers : List Nat) : Nat :=
  (numbers.takeWhile (· == 0)).length

/-- The place and the length of the first longest run of zeros. -/
def longestRun (numbers : List Nat) : Nat × Nat :=
  (List.range numbers.length).foldl
    (fun best place =>
      let count := zeros (numbers.drop place)
      if best.2 < count then (place, count) else best)
    (0, 0)

/-- The address as it is shown. -/
def text (address : Ipv6) : String :=
  let (place, count) := longestRun address.numbers
  String.ofList <|
    if count < 2 then joined address.numbers
    else joined (address.numbers.take place) ++ [':', ':'] ++
      joined (address.numbers.drop (place + count))

/-! ## Reading addresses -/

/-- A number of at most four hexadecimal digits. -/
def number? (cs : List Char) : Option Nat :=
  if cs = [] || 4 < cs.length then none else Ipv4.number? 16 cs

/-- A byte in decimal form, without zeros before it. -/
def byte? (cs : List Char) : Option Nat :=
  if cs = [] || (cs.head? == some '0' && 1 < cs.length) then none
  else (Ipv4.number? 10 cs).filter (· < 256)

/-- The numbers that the last part stands for: one number, or two as four bytes. -/
def lastPart? (part : List Char) : Option (List Nat) :=
  match splitOn '.' part with
  | [single] => (number? single).map ([·])
  | [a, b, c, d] => do
    some [256 * (← byte? a) + (← byte? b), 256 * (← byte? c) + (← byte? d)]
  | _ => none

/-- The numbers of a text without a pair of colons. -/
def numbers? (cs : List Char) : Option (List Nat) :=
  if cs = [] then some []
  else do
    let parts := splitOn ':' cs
    let first ← parts.dropLast.mapM number?
    let last ← lastPart? (parts.getLast?.getD [])
    some (first ++ last)

/-- What stands before and after the first pair of colons. -/
def splitPair? : List Char → Option (List Char × List Char)
  | ':' :: ':' :: after => some ([], after)
  | c :: cs => (splitPair? cs).map fun (before, after) => (c :: before, after)
  | [] => none

/-- Reads an address. -/
def parse? (cs : List Char) : Option Ipv6 :=
  match splitPair? cs with
  | none => (numbers? cs).bind fun numbers =>
      if numbers.length = 8 then some ⟨numbers⟩ else none
  | some (before, after) => do
    let before ← if before.contains '.' then none else numbers? before
    let after ← numbers? after
    let count := before.length + after.length
    if count < 8 then some ⟨before ++ List.replicate (8 - count) 0 ++ after⟩ else none

end Ipv6

end LanguageServer
