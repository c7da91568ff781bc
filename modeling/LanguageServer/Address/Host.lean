import LanguageServer.Text.Utf8
import LanguageServer.Domain.Name
import LanguageServer.Address.Ipv4
import LanguageServer.Address.Ipv6

/-!
# Hosts

A host is named, or given by numbers.  What a name may look like depends on the scheme of the
address.  A known scheme has domain names, which are put into their normal form, and a name that
ends like a number has to be one (`Host.parse?`).  Any other scheme has names of its own, which are
kept as they are written (`Host.foreign?`).
-/

namespace LanguageServer

open Text

/-- A host of an address. -/
inductive Host where
  | name (text : String)
  | ipv4 (address : Ipv4)
  | ipv6 (address : Ipv6)
deriving DecidableEq, Repr

namespace Host

/-- The host as written in an address. -/
def text : Host → String
  | .name text => text
  | .ipv4 address => address.text
  | .ipv6 address => "[" ++ address.text ++ "]"

/-- The name of this machine. -/
def localName : String := "localhost"

/-- Is the host this machine, by its name? -/
def isLocal (host : Host) : Bool :=
  host = .name localName

/-- Reads a host between brackets. -/
def bracketed? (cs : List Char) : Option Host :=
  if cs.getLast? == some ']' then (Ipv6.parse? (cs.drop 1).dropLast).map .ipv6 else none

/-- Reads a host of a known scheme. -/
def parse? (cs : List Char) : Option Host :=
  if cs.head? == some '[' then bracketed? cs
  else do
    let name ← Domain.asciiName? (decode (percentDecode cs))
    if name = [] then none
    else if Ipv4.isMeant name then (Ipv4.parse? name).map .ipv4
    else some (.name (String.ofList name))

/-- Characters that the host of another scheme does not contain. -/
def isForbidden (c : Char) : Bool :=
  "\x00\t\n\r #/:<>?@[\\]^|".toList.contains c

/-- Reads a host of another scheme. -/
def foreign? (cs : List Char) : Option Host :=
  if cs.head? == some '[' then bracketed? cs
  else if cs.any isForbidden then none
  else some (.name (String.ofList (percentEncode isControl cs)))

end Host

end LanguageServer
