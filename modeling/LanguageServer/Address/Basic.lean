import LanguageServer.Address.Host

/-!
# Addresses of documents

An editor names a document by an address such as `file:///work/main.aelys`.  An `Address` is kept in
normal form, so that different ways to write an address lead to the same document: the scheme and
the host are put into lower case, `.` and `..` are taken out of the path, what may not stand for
itself is percent-encoded, the usual port is left out, and a file on `localhost` is a file without a
host.

`Address.text` writes an address; `Address.parse?` reads one.
-/

namespace LanguageServer

/-- Who is asked for a document. -/
structure Authority where
  /-- What stands before the host, with its sign. -/
  user : String
  host : Option Host
  port : Option Nat
deriving DecidableEq, Repr

/-- The part of an address after its scheme and its authority. -/
inductive AddressPath where
  /-- Segments, each with a slash before it. -/
  | segments (parts : List String)
  /-- Text without structure. -/
  | plain (text : String)
deriving DecidableEq, Repr

/-- The address of a document, in normal form. -/
structure Address where
  scheme : String
  authority : Option Authority
  path : AddressPath
  query : Option String
  fragment : Option String
deriving DecidableEq, Repr

/-- The path as written in the address. -/
def AddressPath.text : AddressPath → String
  | .segments parts => parts.foldl (fun text part => text ++ "/" ++ part) ""
  | .plain text => text

/-- Does the path begin with two slashes? -/
def AddressPath.beginsEmpty : AddressPath → Bool
  | .segments ("" :: _ :: _) => true
  | _ => false

/-- The authority as written in the address. -/
def Authority.text (authority : Authority) : String :=
  "//" ++ authority.user ++ (authority.host.map Host.text).getD "" ++
    (authority.port.map fun n => ":" ++ toString n).getD ""

namespace Address

/-- What stands between the scheme and the path.  Two slashes at the beginning of the path would be
taken for an authority, so without an authority a dot is put before them. -/
def beforePath (address : Address) : String :=
  match address.authority with
  | some authority => authority.text
  | none => if address.path.beginsEmpty then "/." else ""

/-- The address as written. -/
def text (address : Address) : String :=
  address.scheme ++ ":" ++ address.beforePath ++ address.path.text ++
    (address.query.map ("?" ++ ·)).getD "" ++ (address.fragment.map ("#" ++ ·)).getD ""

end Address

end LanguageServer
