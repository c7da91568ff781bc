import LanguageServer.Json.Printer
import LanguageServer.Library.Builtin
import LanguageServer.Protocol.Incoming
import LanguageServer.Protocol.Outgoing
import LanguageServer.Session

/-!
# The server

The server takes messages from the editor one at a time and carries out each to its end.  Before the
session begins requests are refused as not initialised; after it has ended they are refused as
invalid; notifications outside the session are dropped.  Once the server has exited it takes no
more messages.  A notification that carries an id is refused as invalid and has no effect.

The order of refusals for a request is: a method that nobody knows, then the wrong time, then
parameters that are missing or make no sense, then what the request itself runs into.
-/

namespace LanguageServer

/-- How far the conversation with the editor has come. -/
inductive Phase where
  | waiting
  | running
  | stopped
  | exited
deriving DecidableEq, Repr

/-- The server with what it remembers. -/
structure Server where
  phase : Phase
  session : Session
  /-- The number for the next request to the editor. -/
  nextRequest : Nat

/-- What comes of a message. -/
inductive Outcome where
  /-- Nothing is answered. -/
  | silent
  | response (message : Json)
  /-- The server takes no more messages. -/
  | exited

/-- Why a request is refused. -/
inductive Refusal where
  | notInitialized
  | invalidRequest
  | methodNotFound (method : Option String)
  | invalidParameters (message : String)
deriving DecidableEq, Repr

namespace Refusal

/-- The number of a refusal. -/
def code : Refusal → Int
  | .notInitialized => -32002
  | .invalidRequest => -32600
  | .methodNotFound _ => -32601
  | .invalidParameters _ => -32602

/-- The message for a refusal. -/
def message : Refusal → String
  | .notInitialized => "Server not initialized"
  | .invalidRequest => "Invalid request"
  | .methodNotFound _ => "Method not found"
  | .invalidParameters message => message

/-- The refusal as JSON. -/
def toJson (refusal : Refusal) : Json :=
  Wire.object
    [ ("code", some (.int refusal.code)),
      ("message", some (.text refusal.message)),
      ("data", match refusal with
        | .methodNotFound method => method.map .text
        | _ => none) ]

end Refusal

namespace Server

/-- A server that has not heard anything yet. -/
def start : Server := ⟨.waiting, .start, 0⟩

/-- The version of the server. -/
def version : String := "0.1.0"

/-- The name of the server. -/
def name : String := "aelys-ls"

/-! ## Responses -/

/-- The response to a request. -/
def success (id result : Json) : Outcome :=
  .response (.object [("jsonrpc", .text "2.0"), ("result", result), ("id", id)])

/-- The response to a refused request; to a notification there is none. -/
def refuse (id : Option Json) (refusal : Refusal) : Outcome :=
  match id with
  | none => .silent
  | some id =>
    .response (.object [("jsonrpc", .text "2.0"), ("error", refusal.toJson), ("id", id)])

/-- What the server offers. -/
def capabilities : Json :=
  .object
    [ ("textDocumentSync", Wire.nat 2),
      ("hoverProvider", .bool true),
      ("completionProvider", .object [("triggerCharacters", .array [.text ".", .text "@"])]),
      ("signatureHelpProvider", .object [("triggerCharacters", .array [.text "(", .text ","])]),
      ("definitionProvider", .bool true),
      ("documentSymbolProvider", .bool true),
      ("executeCommandProvider",
        .object [("commands", .array (Command.all.map fun command => .text command.name))]) ]

/-- How the server introduces itself. -/
def introduction : Json :=
  .object
    [ ("capabilities", capabilities),
      ("serverInfo", .object [("name", .text name), ("version", .text version)]) ]

/-! ## Requests -/

/-- The message for missing parameters. -/
def missingParameters : Refusal := .invalidParameters "Missing params field"

/-- The refusal of parameters that make no sense. -/
def badParameters : Refusal := .invalidParameters "Invalid params"

/-- Begins the session. -/
def beginSession (server : Server) (parameters : Json) : Server :=
  let session := match parameters.get? "initializationOptions" with
    | some options => server.session.configure options
    | none => server.session
  { server with phase := .running, session }

/-- The answer to a question about a document. -/
def answer (server : Server) (files : FileTree) (kind : QuestionKind) (parameters : Json) :
    Except Refusal Json :=
  match Incoming.address? parameters, Incoming.question? kind parameters with
  | some address, some question =>
    .ok (Question.orNull (question.answer ·)
      (server.session.snapshot? Library.builtin files address))
  | _, _ => .error badParameters

/-- Carries out a command. -/
def execute (server : Server) (machine : Machine) (parameters : Json) :
    Activity (Except Refusal Json) := do
  match (parameters.get? "command").bind Json.text? with
  | none => return .error badParameters
  | some command =>
    let arguments := ((parameters.get? "arguments").bind Json.items?).getD []
    match ← server.session.execute machine command arguments with
    | .ok result => return .ok (Json.ofText? result)
    | .error message => return .error (.invalidParameters message)

/-- The outcome of a request. -/
def respond (id : Json) : Except Refusal Json → Outcome
  | .ok result => success id result
  | .error refusal => refuse (some id) refusal

/-! ## Notifications -/

/-- The session after a notification about documents or settings. -/
def notified (session : Session) (method : Method) (parameters : Json) : Option Session :=
  match method with
  | .openDocument => do
    let document ← parameters.get? "textDocument"
    let address ← Incoming.address? parameters
    let text ← (← document.get? "text").text?
    let version ← (← document.get? "version").int?
    some { session with
      workspace := session.workspace.openDocument address text (some version) }
  | .changeDocument => do
    let address ← Incoming.address? parameters
    let version ← (← (← parameters.get? "textDocument").get? "version").int?
    let changes ← (← (← parameters.get? "contentChanges").items?).mapM Incoming.change?
    some (session.changeDocument address changes version)
  | .closeDocument => do
    let address ← Incoming.address? parameters
    some { session with workspace := session.workspace.close address }
  | .configure => do some (session.configure (← parameters.get? "settings"))
  | _ => some session

/-! ## Messages -/

/-- What is refused in the phase, if the message is one for a running session. -/
def untimely : Phase → Option Refusal
  | .waiting => some .notInitialized
  | .running => none
  | .stopped => some .invalidRequest
  | .exited => some .invalidRequest

/-- Takes a message of a running session. -/
def take (server : Server) (machine : Machine) (method : Method) (id : Option Json)
    (parameters : Option Json) : Activity (Outcome × Server) := do
  match method.isNotification, id, parameters with
  | true, some id, _ => return (refuse (some id) .invalidRequest, server)
  | true, none, none => return (.silent, server)
  | true, none, some parameters =>
    if method = .ready then
      server.session.ready machine
    let session := (notified server.session method parameters).getD server.session
    return (.silent, { server with session })
  | false, none, _ => return (.silent, server)
  | false, some id, none => return (refuse (some id) missingParameters, server)
  | false, some id, some parameters =>
    match method with
    | .question kind =>
      return (respond id (server.answer (← get).files kind parameters), server)
    | .executeCommand => return (respond id (← server.execute machine parameters), server)
    | _ => return (refuse (some id) (.methodNotFound none), server)

/-- Takes the request to begin the session. -/
def takeBegin (server : Server) (id parameters : Option Json) : Outcome × Server :=
  match server.phase, id, parameters with
  | .waiting, none, _ => (.silent, server)
  | .waiting, some id, none => (refuse (some id) missingParameters, server)
  | .waiting, some id, some parameters =>
    (success id introduction, server.beginSession parameters)
  | _, id, _ => (refuse id .invalidRequest, server)

/-- Takes the request to end the session. -/
def takeEnd (server : Server) (id parameters : Option Json) : Activity (Outcome × Server) := do
  match untimely server.phase with
  | some refusal => return (refuse id refusal, server)
  | none =>
    let server := { server with phase := .stopped }
    match id, parameters with
    | none, _ => return (.silent, server)
    | some id, some parameters =>
      let message := "Unexpected params: " ++ Json.render parameters
      return (refuse (some id) (.invalidParameters message), server)
    | some id, none =>
      Session.finish
      return (success id .null, server)

/-- Takes a message. -/
def handle (server : Server) (machine : Machine) (message : Incoming) :
    Activity (Outcome × Server) := do
  if server.phase = .exited then
    return (.exited, server)
  match Method.ofName message.method with
  | .beginSession => return server.takeBegin message.id message.parameters
  | .endSession => server.takeEnd message.id message.parameters
  | .exit => return (.silent, { server with phase := .exited })
  | .cancel => return (refuse message.id .invalidRequest, server)
  | .unknown =>
    if message.method.startsWith "$/" then
      return (.silent, server)
    else
      return (refuse message.id (.methodNotFound (some message.method)), server)
  | method =>
    match untimely server.phase with
    | some refusal => return (refuse message.id refusal, server)
    | none => server.take machine method message.id message.parameters

/-- Takes a message, and returns what comes of it together with the messages to the editor that were
sent on the way. -/
def step (server : Server) (machine : Machine) (message : Incoming) :
    Activity ((Outcome × List Json) × Server) := do
  let seen := (← get).editor.events.length
  let (outcome, server) ← server.handle machine message
  let (sent, next) :=
    Outgoing.allMessages server.nextRequest ((← get).editor.events.drop seen)
  return ((outcome, sent), { server with nextRequest := next })

end Server

end LanguageServer
