import LanguageServer.Address.File
import LanguageServer.Toolchain.Feed

/-!
# Releases over the web

A client gets releases from a web server.  Under its base address lies the list of all releases,
with `latest` below it the newest one, and with `tags` and a tag below it the release of that tag.
What is not found is no failure: there is then no such release, or no release at all.  The newest
release is looked for in the list when it cannot be had by itself.

How requests travel is not the concern of the client: a `Transport` carries a request and returns
the response, or nothing when the server cannot be reached.
-/

namespace LanguageServer

open Text

/-- A request to a web server. -/
structure WebRequest where
  address : Address
  /-- The form in which the answer is wanted, when one is asked for. -/
  accept : Option String
  userAgent : String
deriving DecidableEq, Repr

/-- The response of a web server. -/
structure WebResponse where
  status : Nat
  reason : String
  body : List UInt8
deriving DecidableEq, Repr

/-- Carries requests to a server. -/
abbrev Transport := WebRequest → Option WebResponse

/-- Why there is no answer from a web server. -/
inductive WebError where
  /-- The address of the request is no address. -/
  | badAddress
  /-- The host of the address cannot be written in a request. -/
  | badHost (address : Address)
  /-- The server cannot be reached. -/
  | unreachable (address : Address)
  /-- The server refused the request. -/
  | refused (status : Nat) (reason : String) (address : Address)
  /-- The answer is not what was asked for. -/
  | undecodable
deriving DecidableEq, Repr

/-- The message for a missing answer. -/
def WebError.message : WebError → String
  | .badAddress => "builder error"
  | .badHost address => "builder error for url (" ++ address.text ++ ")"
  | .unreachable address => "error sending request for url (" ++ address.text ++ ")"
  | .refused status reason address =>
    (if status < 500 then "HTTP status client error (" else "HTTP status server error (") ++
      toString status ++ " " ++ reason ++ ") for url (" ++ address.text ++ ")"
  | .undecodable => "error decoding response body"

/-- The bytes as text, if they are text. -/
def textOfBytes? (bytes : List UInt8) : Option String :=
  let text := decode bytes
  if encode text = bytes then some (String.ofList text) else none

/-- A client for releases. -/
structure Client where
  /-- The address of the list of releases, without a slash at its end. -/
  base : String

namespace Client

/-- The client for the releases below an address. -/
def ofBase (address : String) : Client :=
  ⟨String.ofList (address.toList.reverse.dropWhile (· == '/')).reverse⟩

/-- The address of the official releases. -/
def officialBase : String := "https://api.github.com/repos/vbxq/aelys_lang/releases"

/-- How the client introduces itself. -/
def userAgent : String := "aelys-ls/0.1.0"

/-- The form in which descriptions of releases are asked for. -/
def jsonForm : String := "application/vnd.github+json"

/-- The authority without the name of the user, which is not part of the address that is asked.  A
name that is no text stays. -/
def withoutUser (authority : Authority) : Authority :=
  let name := authority.user.toList.takeWhile fun c => c != ':' && c != '@'
  if (textOfBytes? (percentDecode name)).isSome then { authority with user := "" } else authority

/-- May the character stand in the host of a request? -/
def isHostPart (c : Char) : Bool :=
  c.isAlphanum || "!$&\x27()*+,-.:;=[]_~".toList.contains c

/-- Can the host be written in a request? -/
def isSendable (address : Address) : Bool :=
  (address.authority.bind (·.host)).all fun host => host.text.toList.all isHostPart

/-- Sends a request to an address. -/
def send (transport : Transport) (url : String) (accept : Option String) :
    Except WebError (Address × WebResponse) :=
  match Address.parse? url with
  | none => .error .badAddress
  | some address =>
    let address := { address with authority := address.authority.map withoutUser }
    if isSendable address then
      match transport ⟨address, accept, userAgent⟩ with
      | none => .error (.unreachable address)
      | some response => .ok (address, response)
    else .error (.badHost address)

/-- The body of a response, unless the request was refused. -/
def body (address : Address) (response : WebResponse) : Except WebError (List UInt8) :=
  if 400 ≤ response.status && response.status < 600 then
    .error (.refused response.status response.reason address)
  else .ok response.body

/-- Gets a description from an address; nothing if there is none. -/
def get? (transport : Transport) (url : String) (read : Json → Option α) :
    Except WebError (Option α) := do
  let (address, response) ← send transport url (some jsonForm)
  if response.status = 404 then .ok none
  else
    let bytes ← body address response
    match (textOfBytes? bytes).bind fun text => (Json.parse? text).bind read with
    | some value => .ok (some value)
    | none => .error .undecodable

/-- All releases. -/
def all (client : Client) (transport : Transport) : Except WebError (List Release) := do
  return (← get? transport client.base Release.listOfJson?).getD []

/-- The newest release. -/
def latest (client : Client) (transport : Transport) : Except WebError (Option Release) :=
  match get? transport (client.base ++ "/latest") Release.ofJson? with
  | .ok (some release) => .ok (some release)
  | _ => do return (← client.all transport).head?

/-- The release with a tag. -/
def tagged (client : Client) (transport : Transport) (tag : String) :
    Except WebError (Option Release) :=
  get? transport (client.base ++ "/tags/" ++ tag) Release.ofJson?

/-- What an address leads to. -/
def download (transport : Transport) (url : String) : Except WebError (List UInt8) := do
  let (address, response) ← send transport url none
  body address response

/-- The bytes as the content of a file. -/
def contentOf (bytes : List UInt8) : Content :=
  match textOfBytes? bytes with
  | some text => .text text
  | none => .bytes bytes

/-- The client as a source of releases. -/
def feed (client : Client) (transport : Transport) : Feed where
  all := (client.all transport).mapError WebError.message
  latest := (client.latest transport).mapError WebError.message
  tagged tag := (client.tagged transport tag).mapError WebError.message
  download url := ((download transport url).map contentOf).mapError WebError.message

end Client

end LanguageServer
