/-!
# Domain names in plain letters

A label with characters outside ASCII is written in plain letters, digits and hyphens: first its
ASCII characters in order, then, after a hyphen, where the others are to be inserted.  The others
are inserted in increasing order of their code points and, for one code point, from left to right.
Between two insertions a counter runs through all places of the label for one code point after the
other; what is written is how far it runs.

A distance is written in digits from `a` to `9`, the lowest first.  A digit below the *threshold* of
its place is the last one.  The thresholds follow a bias, which is adapted to the distances seen so
far.
-/

namespace LanguageServer.Domain.Punycode

/-- The number of digits. -/
def base : Nat := 36

/-- The least threshold. -/
def leastThreshold : Nat := 1

/-- The greatest threshold. -/
def greatestThreshold : Nat := 26

/-- The bias before the first distance. -/
def firstBias : Nat := 72

/-- The first code point that is inserted. -/
def firstInserted : Nat := 0x80

/-- The greatest value that the counters of a reader may take. -/
def counterLimit : Nat := 0xFFFFFFFF

/-- The threshold of a place. -/
def threshold (bias place : Nat) : Nat :=
  min (max (place - bias) leastThreshold) greatestThreshold

/-- Divides a distance until it is small, and counts the divisions in places. -/
def settle (distance places : Nat) : Nat × Nat :=
  let divisor := base - leastThreshold
  if divisor * greatestThreshold / 2 < distance then settle (distance / divisor) (places + base)
  else (distance, places)
termination_by distance
decreasing_by exact Nat.div_lt_self (by omega) (by decide)

/-- The bias after a distance in a label that has the given length now. -/
def adapt (distance length : Nat) (isFirst : Bool) : Nat :=
  let distance := if isFirst then distance / 700 else distance / 2
  let (distance, places) := settle (distance + distance / length) 0
  places + (base - leastThreshold + 1) * distance / (distance + 38)

/-- The value of a digit. -/
def digit? (c : Char) : Option Nat :=
  if 'a' ≤ c && c ≤ 'z' then some (c.toNat - 'a'.toNat)
  else if 'A' ≤ c && c ≤ 'Z' then some (c.toNat - 'A'.toNat)
  else if c.isDigit then some (c.toNat - '0'.toNat + 26)
  else none

/-- The digit with the value. -/
def digit (n : Nat) : Char :=
  Char.ofNat (if n < 26 then 'a'.toNat + n else '0'.toNat + (n - 26))

/-! ## Writing -/

/-- A threshold is positive, so a distance shrinks with each digit. -/
theorem threshold_pos (bias place : Nat) : 0 < threshold bias place := by
  simp only [threshold, leastThreshold, greatestThreshold]
  omega

/-- The digits of a distance, from the given place on. -/
def distanceDigits (bias place distance : Nat) : List Char :=
  let low := threshold bias place
  if distance < low then [digit distance]
  else
    digit (low + (distance - low) % (base - low)) ::
      distanceDigits bias (place + base) ((distance - low) / (base - low))
termination_by distance
decreasing_by
  have := threshold_pos bias place
  exact Nat.lt_of_le_of_lt (Nat.div_le_self _ _) (by omega)

/-- What has been written of a label. -/
structure Writing where
  /-- The digits. -/
  digits : List Char
  /-- How far the counter has run since the last insertion. -/
  distance : Nat
  bias : Nat
  /-- How many characters of the label have been written. -/
  written : Nat

/-- Lets the counter run over one place of the label, where the given code point is inserted. -/
def Writing.pass (basic inserted : Nat) (writing : Writing) (c : Char) : Writing :=
  if c.toNat < inserted then { writing with distance := writing.distance + 1 }
  else if c.toNat = inserted then
    { digits := writing.digits ++ distanceDigits writing.bias base writing.distance
      distance := 0
      bias := adapt writing.distance (writing.written + 1) (writing.written == basic)
      written := writing.written + 1 }
  else writing

/-- Lets the counter run from one code point on to the given ones, in increasing order, and over the
label for each. -/
def Writing.run (label : List Char) (basic : Nat) (writing : Writing) (next : Nat) :
    List Nat → Writing
  | [] => writing
  | inserted :: rest =>
    let skipped := { writing with
      distance := writing.distance + (inserted - next) * (writing.written + 1) }
    let passed := label.foldl (Writing.pass basic inserted) skipped
    Writing.run label basic { passed with distance := passed.distance + 1 } (inserted + 1) rest

/-- Is the character one of those that stand for themselves? -/
def isBasic (c : Char) : Bool :=
  c.toNat < firstInserted

/-- The label in plain letters. -/
def encode (label : List Char) : List Char :=
  let basic := label.filter isBasic
  let inserted := ((label.filter (!isBasic ·)).map Char.toNat).mergeSort.eraseDups
  let writing := Writing.run label basic.length ⟨[], 0, firstBias, basic.length⟩ firstInserted
    inserted
  basic ++ (if basic = [] then [] else ['-']) ++ writing.digits

/-! ## Reading -/

/-- Reads the digits of a distance, with the weight of the next place, and adds it to the counter.
Returns the counter and what follows; fails when the distance does not end or is too great. -/
def distance? (bias : Nat) : List Char → Nat → Nat → Nat → Option (Nat × List Char)
  | [], _, _, _ => none
  | c :: cs, place, weight, counter => do
    let value ← digit? c
    let counter := counter + value * weight
    let low := threshold bias place
    if counterLimit < counter then none
    else if value < low then some (counter, cs)
    else
      let weight := weight * (base - low)
      if counterLimit < weight then none else distance? bias cs (place + base) weight counter

/-- A character of the code point, if it has one. -/
def charOf? (n : Nat) : Option Char :=
  if n.isValidChar then some (Char.ofNat n) else none

/-- What has been read of a label. -/
structure Reading where
  label : List Char
  /-- The code point that is inserted next, unless the counter runs on. -/
  inserted : Nat
  /-- The place in the label where it is inserted. -/
  counter : Nat
  bias : Nat

/-- Inserts a character into the label, after the counter has run. -/
def Reading.insert? (reading : Reading) (counter : Nat) : Option Reading := do
  let length := reading.label.length + 1
  let inserted := reading.inserted + counter / length
  let place := counter % length
  let c ← charOf? inserted
  some
    { label := reading.label.take place ++ c :: reading.label.drop place
      inserted
      counter := place + 1
      bias := adapt (counter - reading.counter) length (reading.counter == 0) }

/-- Reads insertions; there are at most as many as there are digits. -/
def insertions? : Nat → Reading → List Char → Option (List Char)
  | _, reading, [] => some reading.label
  | 0, _, _ :: _ => none
  | count + 1, reading, digits => do
    let (counter, rest) ← distance? reading.bias digits base 1 reading.counter
    insertions? count (← reading.insert? counter) rest

/-- The label that is written in plain letters.  What stands before the last hyphen stands for
itself, unless the hyphen is at the beginning. -/
def decode? (cs : List Char) : Option (List Char) :=
  let digits := (cs.reverse.takeWhile (· != '-')).reverse
  let basic := cs.take (cs.length - digits.length - 1)
  let digits := if basic = [] then cs else digits
  insertions? digits.length ⟨basic, firstInserted, 0, firstBias⟩ digits

end LanguageServer.Domain.Punycode
