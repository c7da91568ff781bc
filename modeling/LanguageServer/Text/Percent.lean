import LanguageServer.Text.Hex
import LanguageServer.Text.Utf8

/-!
# Percent encoding

In an address a character that may not stand for itself is written as its bytes, each as a percent
sign and two hexadecimal digits.  Which characters may not stand for themselves depends on the part
of the address, so `percentEncode` takes their set; characters outside ASCII never may.

Reading accepts digits of either case.  A percent sign without two digits stands for itself.
-/

namespace LanguageServer.Text

/-- A byte as a percent sign and two digits. -/
def percentByte (b : UInt8) : List Char :=
  ['%', hexDigit 'A' (b.toNat / 16), hexDigit 'A' (b.toNat % 16)]

/-- The text with the characters of the set, and those outside ASCII, as percent signs and
digits. -/
def percentEncode (set : Char → Bool) (cs : List Char) : List Char :=
  cs.flatMap fun c =>
    if set c || 0x7F < c.toNat then (String.utf8EncodeChar c).flatMap percentByte else [c]

/-- The bytes as text, with the bytes of the set, and those outside ASCII, as percent signs and
digits. -/
def percentEncodeBytes (set : Char → Bool) (bytes : List UInt8) : List Char :=
  bytes.flatMap fun b =>
    let c := Char.ofNat b.toNat
    if set c || 0x7F < b.toNat then percentByte b else [c]

/-- The bytes that a percent-encoded text stands for. -/
def percentDecode : List Char → List UInt8
  | '%' :: a :: b :: rest =>
    match hexValue? a, hexValue? b with
    | some x, some y => UInt8.ofNat (16 * x + y) :: percentDecode rest
    | _, _ => String.utf8EncodeChar '%' ++ percentDecode (a :: b :: rest)
  | c :: rest => String.utf8EncodeChar c ++ percentDecode rest
  | [] => []

/-! ## Sets of characters -/

/-- Control characters. -/
def isControl (c : Char) : Bool :=
  c.toNat < 0x20 || c.toNat == 0x7F

/-- What may not stand for itself in a fragment. -/
def fragmentSet (c : Char) : Bool :=
  isControl c || " \"<>`".toList.contains c

/-- What may not stand for itself in a query. -/
def querySet (c : Char) : Bool :=
  isControl c || " \"#<>".toList.contains c

/-- What may not stand for itself in a path. -/
def pathSet (c : Char) : Bool :=
  fragmentSet c || "#?\x7b\x7d".toList.contains c

/-- What may not stand for itself before the host. -/
def userSet (c : Char) : Bool :=
  pathSet c || "/:;=@[\\]^|".toList.contains c

/-- What may not stand for itself in a segment made from a file name. -/
def segmentSet (c : Char) : Bool :=
  pathSet c || "/%\\".toList.contains c

end LanguageServer.Text
