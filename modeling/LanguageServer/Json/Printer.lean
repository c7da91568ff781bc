import LanguageServer.Json.Basic
import LanguageServer.Text.Hex

/-!
# Writing JSON text

`Json.render` writes a value on one line without blanks.  `Json.pretty` writes each item and each
member on a line of its own, indented by two spaces for every level, with a space after the colon;
an empty array and an empty object stay on one line.

In a string literal the quote, the backslash and the control characters are escaped, the latter by
their short form where they have one.  Every other character is written as it is.
-/

namespace LanguageServer.Json

/-- How a character is written in a string literal. -/
def escaped (c : Char) : List Char :=
  if c = '"' then ['\\', '"']
  else if c = '\\' then ['\\', '\\']
  else if c = '\x08' then ['\\', 'b']
  else if c = '\x0c' then ['\\', 'f']
  else if c = '\n' then ['\\', 'n']
  else if c = '\r' then ['\\', 'r']
  else if c = '\t' then ['\\', 't']
  else if c.toNat < 0x20 then
    ['\\', 'u', '0', '0', Text.hexDigit 'a' (c.toNat / 16), Text.hexDigit 'a' (c.toNat % 16)]
  else [c]

/-- The string literal that denotes the text. -/
def quoted (text : String) : String :=
  String.ofList ('"' :: text.toList.flatMap escaped ++ ['"'])

/-- A value that is neither an array nor an object.  A literal that denotes no text is written as
half of a surrogate pair. -/
def atom : Json → String
  | .null => "null"
  | .bool true => "true"
  | .bool false => "false"
  | .int n => toString n
  | .real numeral => numeral.text
  | .text value => quoted value
  | .broken => "\"\\ud800\""
  | .array _ => "[]"
  | .object _ => "\x7b\x7d"

mutual

/-- The value on one line. -/
def render : Json → String
  | .array items => "[" ++ renderItems items ++ "]"
  | .object members => "\x7b" ++ renderMembers members ++ "\x7d"
  | value => atom value

/-- The items on one line. -/
def renderItems : List Json → String
  | [] => ""
  | [item] => render item
  | item :: next :: rest => render item ++ "," ++ renderItems (next :: rest)

/-- The members on one line. -/
def renderMembers : List (String × Json) → String
  | [] => ""
  | [(key, value)] => quoted key ++ ":" ++ render value
  | (key, value) :: next :: rest =>
    quoted key ++ ":" ++ render value ++ "," ++ renderMembers (next :: rest)

end

/-- A line break and the indentation of the given level. -/
def newLine (level : Nat) : String :=
  String.ofList ('\n' :: List.replicate (2 * level) ' ')

mutual

/-- The value over several lines, at the given level of indentation. -/
def prettyAt (level : Nat) : Json → String
  | .array [] => "[]"
  | .array items => "[" ++ prettyItems (level + 1) items ++ newLine level ++ "]"
  | .object [] => "\x7b\x7d"
  | .object members => "\x7b" ++ prettyMembers (level + 1) members ++ newLine level ++ "\x7d"
  | value => atom value

/-- The items, each on a line of its own. -/
def prettyItems (level : Nat) : List Json → String
  | [] => ""
  | [item] => newLine level ++ prettyAt level item
  | item :: next :: rest =>
    newLine level ++ prettyAt level item ++ "," ++ prettyItems level (next :: rest)

/-- The members, each on a line of its own. -/
def prettyMembers (level : Nat) : List (String × Json) → String
  | [] => ""
  | [(key, value)] => newLine level ++ quoted key ++ ": " ++ prettyAt level value
  | (key, value) :: next :: rest =>
    newLine level ++ quoted key ++ ": " ++ prettyAt level value ++ "," ++
      prettyMembers level (next :: rest)

end

/-- The value over several lines. -/
def pretty (value : Json) : String :=
  prettyAt 0 value

end LanguageServer.Json
