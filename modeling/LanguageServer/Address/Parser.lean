import LanguageServer.Address.Basic
import LanguageServer.Address.Segments

/-!
# Reading addresses

`Address.parse?` reads an address into its normal form.  A text that names no scheme is no address,
and neither is one whose host or port cannot be read.

How the rest is read depends on the scheme.  A few schemes are *known*: their addresses have a host
and then a path in segments, and a backslash may be written for a slash.  In the addresses of files
the host may be missing and there is no port.  Addresses of any other scheme have an authority only
after two slashes, and without it their path may be text without structure.
-/

namespace LanguageServer.Address

open Text

/-- The schemes whose addresses are made up alike: a host, then a path in segments.  Each has a port
that need not be written. -/
def usualPorts : List (String × Option Nat) :=
  [("http", some 80), ("https", some 443), ("ws", some 80), ("wss", some 443), ("ftp", some 21),
    ("file", none)]

/-- Is the scheme one of the known ones? -/
def isKnown (scheme : String) : Bool :=
  usualPorts.any (·.1 == scheme)

/-- The text without tabs and line breaks, and without control characters and spaces at its ends. -/
def clean (text : List Char) : List Char :=
  let isEdge (c : Char) : Bool := c.toNat ≤ 0x20
  (((text.dropWhile isEdge).reverse.dropWhile isEdge).reverse).filter fun c =>
    !(c == '\t' || c == '\n' || c == '\r')

/-- Reads a scheme and the colon after it. -/
def scheme? : List Char → Option (String × List Char)
  | [] => none
  | c :: cs =>
    if c.isAlpha then
      let isPart (d : Char) : Bool := d.isAlphanum || d == '+' || d == '-' || d == '.'
      match cs.dropWhile isPart with
      | ':' :: rest => some (String.ofList ((c :: cs.takeWhile isPart).map Char.toLower), rest)
      | _ => none
    else none

/-- Does the character end a path? -/
def isPathEnd (c : Char) : Bool :=
  c == '?' || c == '#'

/-- The path at the beginning of a text. -/
def pathPart (cs : List Char) : List Char :=
  cs.takeWhile fun c => !isPathEnd c

/-- What follows the path at the beginning of a text. -/
def afterPath (cs : List Char) : List Char :=
  cs.dropWhile fun c => !isPathEnd c

/-- The text without the slash at its beginning. -/
def dropSlash (known : Bool) : List Char → List Char
  | [] => []
  | c :: cs => if isSlash known c then cs else c :: cs

/-- Reads a query and a fragment. -/
def tail (scheme : String) (cs : List Char) : Option String × Option String :=
  let query := cs.takeWhile (· != '#')
  let set (c : Char) : Bool := querySet c || (isKnown scheme && c.toNat == 0x27)
  ( match query with
    | '?' :: rest => some (String.ofList (percentEncode set rest))
    | _ => none,
    match cs.dropWhile (· != '#') with
    | '#' :: rest => some (String.ofList (percentEncode fragmentSet rest))
    | _ => none )

/-! ## Authorities -/

/-- Is the character part of an authority? -/
def isAuthorityPart (known : Bool) (c : Char) : Bool :=
  !(isSlash known c || isPathEnd c)

/-- The name of a user as written in an address.  A password follows a colon. -/
def userOf (cs : List Char) : String :=
  let name := cs.takeWhile (· != ':')
  let password := (cs.dropWhile (· != ':')).drop 1
  let shown := percentEncode userSet name ++
    (if password = [] then [] else ':' :: percentEncode userSet password)
  if shown = [] then "" else String.ofList (shown ++ ['@'])

/-- Reads the name of a user, up to the last sign that ends one, and returns what follows.  A sign
at the beginning must not be the whole authority of an address that goes on. -/
def user? (known : Bool) (cs : List Char) : Option (String × List Char) :=
  let authority := cs.takeWhile (isAuthorityPart known)
  if authority.contains '@' then
    let host := (authority.reverse.takeWhile (· != '@')).reverse
    let user := authority.take (authority.length - host.length - 1)
    let rest := cs.drop (user.length + 1)
    if user = [] && rest.head?.any (!isAuthorityPart known ·) then none
    else some (userOf user, rest)
  else some ("", cs)

/-- Splits a text behind a host.  Between brackets a colon belongs to the host. -/
def splitHost (known inBrackets : Bool) : List Char → List Char × List Char
  | [] => ([], [])
  | c :: cs =>
    if !isAuthorityPart known c || (c == ':' && !inBrackets) then ([], c :: cs)
    else
      let (host, rest) := splitHost known (c == '[' || (inBrackets && c != ']')) cs
      (c :: host, rest)

/-- Reads the number of a port after its colon, and returns what follows.  There is no port when
none is written or when it is the usual one. -/
def port? (scheme : String) (cs : List Char) : Option (Option Nat × List Char) :=
  let digits := cs.takeWhile (·.isDigit)
  let rest := cs.dropWhile (·.isDigit)
  let n := digits.foldl (fun n c => 10 * n + (c.toNat - '0'.toNat)) 0
  if 65535 < n || rest.head?.any (isAuthorityPart true) then none
  else if digits = [] || usualPorts.any (· == (scheme, some n)) then some (none, rest)
  else some (some n, rest)

/-- Reads a host.  Only the schemes that are not known may do without one. -/
def host? (known : Bool) (cs : List Char) : Option (Option Host) :=
  if known then (Host.parse? cs).map some
  else if cs = [] then some none
  else (Host.foreign? cs).map some

/-- Reads an authority, and returns what follows.  Without a host there is neither a user nor a
port. -/
def authority? (scheme : String) (cs : List Char) : Option (Authority × List Char) := do
  let known := isKnown scheme
  let (user, rest) ← user? known cs
  let (name, rest) := splitHost known false rest
  let host ← host? known name
  if host.isNone && (user ≠ "" || rest.head? == some ':') then none
  else
    match rest with
    | ':' :: digits =>
      let (port, rest) ← port? scheme digits
      some (⟨user, host, port⟩, rest)
    | _ => some (⟨user, host, none⟩, rest)

/-! ## The kinds of addresses -/

/-- The path in segments at the beginning of a text. -/
def segments (scheme : String) (cs : List Char) : AddressPath :=
  let known := isKnown scheme
  .segments ((normalPath false known (dropSlash known (pathPart cs))).map String.ofList)

/-- Reads what follows the scheme and two slashes. -/
def afterSlashes? (scheme : String) (cs : List Char) : Option Address := do
  let (authority, rest) ← authority? scheme cs
  let (query, fragment) := tail scheme (afterPath rest)
  some
    { scheme, authority := some authority
      path := if pathPart rest = [] && !isKnown scheme then .plain "" else segments scheme rest
      query, fragment }

/-- The address of a file on a host, if there is one.  A path that begins with a drive does without
the host. -/
def file (host : Option Host) (cs : List Char) : Address :=
  let path := normalPath true true (pathPart cs)
  let (query, fragment) := tail "file" (afterPath cs)
  { scheme := "file"
    authority := some ⟨"", if path.head?.any isDrive then none else host, none⟩
    path := .segments ((dropEmpty path).map String.ofList)
    query, fragment }

/-- Reads what follows `file:` and two slashes.  What looks like a drive is no host.  When there is
no host, the slash at the beginning of the path stands after an empty segment. -/
def fileOnHost? (cs : List Char) : Option Address :=
  let name := cs.takeWhile (isAuthorityPart true)
  let rest := cs.drop name.length
  if isDrive name then some (file none cs)
  else if name = [] then some (file none rest)
  else (Host.parse? name).map fun host =>
    if host.isLocal then file none rest else file (some host) (dropSlash true rest)

/-- Reads what follows `file:`. -/
def file? (cs : List Char) : Option Address :=
  match cs with
  | c :: d :: rest =>
    if isSlash true c && isSlash true d then fileOnHost? rest
    else some (file none (dropSlash true cs))
  | _ => some (file none (dropSlash true cs))

/-- Reads what follows a scheme that is not known. -/
def other? (scheme : String) (cs : List Char) : Option Address :=
  match cs with
  | '/' :: '/' :: rest => afterSlashes? scheme rest
  | _ =>
    let (query, fragment) := tail scheme (afterPath cs)
    some
      { scheme, authority := none
        path := match cs with
          | '/' :: _ => segments scheme cs
          | _ => .plain (String.ofList (percentEncode isControl (pathPart cs)))
        query, fragment }

/-- Reads an address. -/
def parse? (text : String) : Option Address := do
  let (scheme, rest) ← scheme? (clean text.toList)
  if scheme = "file" then file? rest
  else if isKnown scheme then afterSlashes? scheme (rest.dropWhile (isSlash true))
  else other? scheme rest

end LanguageServer.Address
