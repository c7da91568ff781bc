import LanguageServer.Json.Basic
import LanguageServer.Text.Hex

/-!
# Reading JSON text

`Json.parse?` reads a text that consists of exactly one JSON value, with blanks around it allowed.
Anything else has no value: raw control characters in a string literal, numbers with a superfluous
zero, a comma before a closing bracket, text after the value.

A string literal is first cut into characters and escaped 16-bit units, and the units are then
combined into characters.  This separates what makes a literal malformed, which is an error, from
what makes it denote no text, which is the value `Json.broken`.  An object with a key that denotes
no text is `Json.broken` as well.

The readers for values, items and members call one another.  Each call spends one unit of fuel, and
each consumes at least one character in turn, so the length of the text is fuel enough.

Arrays and objects may be nested to any depth.  A limit on their levels, such as the usual one of
128, is not part of this reader; what the library writes itself has one level.
-/

namespace LanguageServer.Json

/-! ## Blanks and literals -/

/-- Is `c` one of the four blanks of JSON? -/
def isSpace (c : Char) : Bool :=
  c == ' ' || c == '\n' || c == '\r' || c == '\t'

/-- The text without the blanks at its beginning. -/
def skip (cs : List Char) : List Char :=
  cs.dropWhile isSpace

/-- The value of four hexadecimal digits. -/
def hexUnit? (a b c d : Char) : Option Nat := do
  let a ← Text.hexValue? a
  let b ← Text.hexValue? b
  let c ← Text.hexValue? c
  let d ← Text.hexValue? d
  some (a * 4096 + b * 256 + c * 16 + d)

/-- The character that a backslash with the given letter stands for. -/
def escape? (c : Char) : Option Char :=
  match c with
  | '"' => some '"'
  | '\\' => some '\\'
  | '/' => some '/'
  | 'b' => some '\x08'
  | 'f' => some '\x0c'
  | 'n' => some '\n'
  | 'r' => some '\r'
  | 't' => some '\t'
  | _ => none

/-- What a string literal is made of: characters, and 16-bit units given by number. -/
inductive Piece where
  | char (c : Char)
  | unit (n : Nat)
deriving DecidableEq, Repr

/-- Reads the rest of a string literal, through its closing quote. -/
def pieces? : List Char → Option (List Piece × List Char)
  | [] => none
  | '"' :: cs => some ([], cs)
  | '\\' :: 'u' :: a :: b :: c :: d :: cs => do
    let n ← hexUnit? a b c d
    let (pieces, rest) ← pieces? cs
    some (.unit n :: pieces, rest)
  | '\\' :: e :: cs => do
    let c ← escape? e
    let (pieces, rest) ← pieces? cs
    some (.char c :: pieces, rest)
  | c :: cs =>
    if c.toNat < 0x20 then none
    else do
      let (pieces, rest) ← pieces? cs
      some (.char c :: pieces, rest)

/-- The text that the pieces of a literal denote, if every half of a surrogate pair has its
counterpart. -/
def combine? : List Piece → Option (List Char)
  | [] => some []
  | .char c :: ps => (combine? ps).map (c :: ·)
  | .unit n :: ps =>
    if 0xd800 ≤ n ∧ n < 0xdc00 then
      match ps with
      | .unit m :: ps =>
        if 0xdc00 ≤ m ∧ m < 0xe000 then
          (combine? ps).map (Char.ofNat (0x10000 + (n - 0xd800) * 0x400 + (m - 0xdc00)) :: ·)
        else none
      | _ => none
    else if 0xdc00 ≤ n ∧ n < 0xe000 then none
    else (combine? ps).map (Char.ofNat n :: ·)

/-- Reads a string literal after its opening quote: the text it denotes, if any, and the rest. -/
def string? (cs : List Char) : Option (Option String × List Char) := do
  let (pieces, rest) ← pieces? cs
  some ((combine? pieces).map String.ofList, rest)

/-! ## Numbers -/

/-- The number that a sequence of decimal digits stands for. -/
def natOfDigits (digits : List Char) : Nat :=
  digits.foldl (fun n c => n * 10 + (c.toNat - '0'.toNat)) 0

/-- Reads digits, of which there must be at least one. -/
def digits? (cs : List Char) : Option (List Char × List Char) :=
  match cs.takeWhile Char.isDigit with
  | [] => none
  | digits => some (digits, cs.dropWhile Char.isDigit)

/-- Reads the part of a number before its fraction: a zero, or digits that do not begin with one. -/
def whole? : List Char → Option (List Char × List Char)
  | '0' :: cs =>
    match cs with
    | c :: _ => if c.isDigit then none else some (['0'], cs)
    | [] => some (['0'], [])
  | cs => digits? cs

/-- Reads a fraction if there is a dot, and nothing otherwise. -/
def fraction? : List Char → Option (List Char × List Char)
  | '.' :: cs => digits? cs
  | cs => some ([], cs)

/-- Reads digits with a sign, which may be left out. -/
def signed? : List Char → Option (Int × List Char)
  | '-' :: cs => (digits? cs).map fun (digits, rest) => (-natOfDigits digits, rest)
  | '+' :: cs => (digits? cs).map fun (digits, rest) => (natOfDigits digits, rest)
  | cs => (digits? cs).map fun (digits, rest) => (natOfDigits digits, rest)

/-- Reads an exponent if there is its letter, and nothing otherwise. -/
def exponent? : List Char → Option (Option Int × List Char)
  | 'e' :: cs => (signed? cs).map fun (n, rest) => (some n, rest)
  | 'E' :: cs => (signed? cs).map fun (n, rest) => (some n, rest)
  | cs => some (none, cs)

/-- Is the number one of 64 bits, with a sign or without? -/
def isWord (n : Int) : Bool :=
  -0x8000000000000000 ≤ n && n < 0x10000000000000000

/-- The values of digits. -/
def digitValues (digits : List Char) : List Nat :=
  digits.map fun c => c.toNat - '0'.toNat

/-- Reads a number.  Zero with a sign is no integer. -/
def number? (cs : List Char) : Option (Json × List Char) := do
  let (negative, start) := match cs with
    | '-' :: rest => (true, rest)
    | _ => (false, cs)
  let (whole, rest) ← whole? start
  let (fraction, rest) ← fraction? rest
  let (exponent, rest) ← exponent? rest
  let n : Int := if negative then -natOfDigits whole else natOfDigits whole
  if fraction = [] && exponent.isNone && isWord n && !(negative && n == 0) then some (.int n, rest)
  else
    some (.real ⟨negative, digitValues whole, digitValues fraction, exponent.getD 0⟩, rest)

/-- Reads the given word and gives it the given value. -/
def word? (word : List Char) (value : Json) (cs : List Char) : Option (Json × List Char) :=
  if word.isPrefixOf cs then some (value, cs.drop word.length) else none

/-! ## Values -/

/-- The object with a member put before the others.  A key that denotes no text breaks it. -/
def withMember (key : Option String) (value : Json) : Json → Json
  | .object members =>
    match key with
    | some key => .object ((key, value) :: members)
    | none => .broken
  | _ => .broken

mutual

/-- Reads a value that begins with the text. -/
def readValue? : Nat → List Char → Option (Json × List Char)
  | 0, _ => none
  | fuel + 1, cs =>
    match cs with
    | [] => none
    | '"' :: rest => do
      let (denoted, rest) ← string? rest
      some ((denoted.map Json.text).getD .broken, rest)
    | '[' :: rest =>
      match skip rest with
      | ']' :: rest => some (.array [], rest)
      | rest => do
        let (items, rest) ← readItems? fuel rest
        some (.array items, rest)
    | '{' :: rest =>
      match skip rest with
      | '}' :: rest => some (.object [], rest)
      | rest => readMembers? fuel rest
    | 'n' :: _ => word? ['n', 'u', 'l', 'l'] .null cs
    | 't' :: _ => word? ['t', 'r', 'u', 'e'] (.bool true) cs
    | 'f' :: _ => word? ['f', 'a', 'l', 's', 'e'] (.bool false) cs
    | _ => number? cs

/-- Reads the items of an array, through its closing bracket. -/
def readItems? : Nat → List Char → Option (List Json × List Char)
  | 0, _ => none
  | fuel + 1, cs => do
    let (item, rest) ← readValue? fuel (skip cs)
    match skip rest with
    | ']' :: rest => some ([item], rest)
    | ',' :: rest => do
      let (more, rest) ← readItems? fuel rest
      some (item :: more, rest)
    | _ => none

/-- Reads the members of an object, through its closing brace. -/
def readMembers? : Nat → List Char → Option (Json × List Char)
  | 0, _ => none
  | fuel + 1, cs =>
    match skip cs with
    | '"' :: rest => do
      let (key, rest) ← string? rest
      match skip rest with
      | ':' :: rest => do
        let (value, rest) ← readValue? fuel (skip rest)
        match skip rest with
        | '}' :: rest => some (withMember key value (.object []), rest)
        | ',' :: rest => do
          let (more, rest) ← readMembers? fuel rest
          some (withMember key value more, rest)
        | _ => none
      | _ => none
    | _ => none

end

/-- The value that the text consists of. -/
def parse? (text : String) : Option Json := do
  let cs := text.toList
  let (value, rest) ← readValue? (cs.length + 1) (skip cs)
  match skip rest with
  | [] => some value
  | _ => none

end LanguageServer.Json
