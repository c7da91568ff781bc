import LanguageServer.Text.Split
import LanguageServer.Text.Percent
import LanguageServer.Domain.Mapping
import LanguageServer.Domain.Composition
import LanguageServer.Domain.Direction
import LanguageServer.Domain.Joining
import LanguageServer.Domain.Punycode

/-!
# Domain names

A domain name consists of labels with dots between them.  `asciiName?` gives its normal form, in
which it is looked up: in plain letters, with a label that has other characters written in Punycode
after `xn--`.  It fails for a name that has no normal form.

A name in plain letters is only put into lower case.  Any other name is spread and composed first
(`spreadAll?`, `composedForm`), and then each of its labels has to be *proper*: a label that is
written in Punycode must stand for one that could have been written by itself, a mark may not begin
a label, joiners must be visible, and in a name with characters from right to left every label must
have one direction.
-/

namespace LanguageServer.Domain

open Text

/-- What a label begins with when it is written in Punycode. -/
def codeStart : List Char := "xn--".toList

/-- Characters that no domain name contains. -/
def isDenied (c : Char) : Bool :=
  isControl c || " %#/:<>?@[\\]^|".toList.contains c

/-- Does the text consist of ASCII characters only? -/
def isAscii (cs : List Char) : Bool :=
  cs.all (·.toNat < 0x80)

/-- The longest label that is written in Punycode. -/
def encodeLimit : Nat := 1000

/-- The longest text that is read as Punycode. -/
def decodeLimit : Nat := 2000

/-- A label of a domain name. -/
structure Label where
  /-- The label in plain letters. -/
  ascii : List Char
  /-- The label in the characters of its script. -/
  script : List Char
deriving DecidableEq, Repr

namespace Label

/-- Are the characters of the label where they may be, apart from their directions? -/
def isProper (label : List Char) : Bool :=
  label.all (fun c => isAdmitted c && !isDenied c) && !label.head?.any isMark &&
    !codeStart.isPrefixOf label && joinersVisible [] label

/-- The label that is written in Punycode after its beginning. -/
def decode? (ascii : List Char) : Option Label := do
  let code := ascii.drop codeStart.length
  if decodeLimit < code.length then none
  else
    let script ← Punycode.decode? code
    if isAscii script || composedForm script ≠ script || !isProper script then none
    else some ⟨ascii, script⟩

/-- The label with the characters, which are spread and composed. -/
def ofChars? (label : List Char) : Option Label :=
  if isAscii label then
    if label.any isDenied then none
    else if codeStart.isPrefixOf label then decode? label
    else some ⟨label, label⟩
  else if encodeLimit < label.length || !isProper label then none
  else some ⟨codeStart ++ Punycode.encode label, label⟩

end Label

/-- The labels of a domain name with characters outside ASCII, or with Punycode. -/
def labels? (cs : List Char) : Option (List Label) := do
  let spread ← spreadAll? cs
  let labels ← (splitOn '.' (composedForm spread)).mapM Label.ofChars?
  if labels.any (·.script.any isRightward) && !labels.all (isDirected ·.script) then none
  else some labels

/-- Does a label of the text in lower case begin like Punycode? -/
def hasCode (cs : List Char) : Bool :=
  (splitOn '.' cs).any codeStart.isPrefixOf

/-- The normal form of a domain name. -/
def asciiName? (cs : List Char) : Option (List Char) :=
  let lower := cs.map Char.toLower
  if isAscii cs && !hasCode lower then
    if lower.any isDenied then none else some lower
  else (labels? cs).map fun labels => joinWith ['.'] (labels.map (·.ascii))

end LanguageServer.Domain
