import LanguageServer.Json.Numeral

/-!
# JSON values

Settings, release lists, the stored state of the toolchain and every protocol message are JSON.  The
type `Json` keeps of a JSON text what these uses can tell apart.

* An object is the list of its members in the order of the text, repeated keys included: a reader of
  known members has to refuse a key that is given twice, and an ignored member may be repeated.
* A number is an integer of 64 bits, with or without a sign, or else kept as it was written; no use
  computes with other numbers.
* A string literal may escape half of a surrogate pair.  Such a literal is well formed but denotes
  no text.  It is the value `broken`, which can be ignored and never read.  So is an object with
  such a literal for a key.
-/

namespace LanguageServer

/-- A JSON value. -/
inductive Json where
  | null
  | bool (value : Bool)
  | int (value : Int)
  /-- A number that is no integer of 64 bits, kept as written. -/
  | real (numeral : Numeral)
  | text (value : String)
  /-- A string literal that denotes no text, or an object with such a key. -/
  | broken
  | array (items : List Json)
  | object (members : List (String × Json))
deriving Inhabited

namespace Json

/-- The value of the first member with the given key; nothing unless the value is an object. -/
def get? (key : String) : Json → Option Json
  | .object members => (members.find? (·.1 == key)).map (·.2)
  | _ => none

/-- The text, if the value is one. -/
def text? : Json → Option String
  | .text value => some value
  | _ => none

/-- The truth value, if the value is one. -/
def bool? : Json → Option Bool
  | .bool value => some value
  | _ => none

/-- The natural number, if the value is one. -/
def nat? : Json → Option Nat
  | .int (.ofNat n) => some n
  | _ => none

/-- The integer, if the value is one. -/
def int? : Json → Option Int
  | .int n => some n
  | _ => none

/-- The items, if the value is an array. -/
def items? : Json → Option (List Json)
  | .array items => some items
  | _ => none

/-- Is the value `null`? -/
def isNull : Json → Bool
  | .null => true
  | _ => false

/-- The value of an optional text: `null` when there is none. -/
def ofText? : Option String → Json
  | some value => .text value
  | none => .null

/-! ## Records

A record with known members is written as an object, or as the array of the values of its members in
order, where members at the end may be left out. -/

/-- The values given for the member `key`: none, or one.  Two are refused. -/
def member? (members : List (String × Json)) (key : String) : Option (Option Json) :=
  match members.filter (·.1 == key) with
  | [] => some none
  | [(_, value)] => some (some value)
  | _ => none

/-- The values of the record members `keys`, in that order, each if it is given.  Members of an
object that are not asked for are ignored; an array may not be longer than the record. -/
def record? (keys : List String) : Json → Option (List (Option Json))
  | .object members => keys.mapM (member? members)
  | .array items =>
    if items.length ≤ keys.length then
      some (items.map some ++ List.replicate (keys.length - items.length) none)
    else none
  | _ => none

/-- The text of an optional record member: absent and `null` both mean none. -/
def optionalText? : Option Json → Option (Option String)
  | none => some none
  | some .null => some none
  | some (.text value) => some (some value)
  | some _ => none

end Json

end LanguageServer
