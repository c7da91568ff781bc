import LanguageServer.Host.Event
import LanguageServer.Protocol.Wire

/-!
# Messages to the editor

Every event becomes one or two messages to the editor.  Most are notifications.  A question, and the
creation of a token for a work, is a request with a number; the numbers are given out in order from
zero.

The editor answers a request with a result or an error.  What it answers to a question is read here
as well: to a prompt an object with a title, to an input a text.
-/

namespace LanguageServer.Outgoing

open Wire

/-- A notification. -/
def notification (method : String) (parameters : Json) : Json :=
  .object [("jsonrpc", .text "2.0"), ("method", .text method), ("params", parameters)]

/-- A request with its number. -/
def request (number : Nat) (method : String) (parameters : Json) : Json :=
  .object [("jsonrpc", .text "2.0"), ("method", .text method), ("params", parameters),
    ("id", nat number)]

/-- A message for the user, of the given type. -/
def showMessage (type : Nat) (message : String) : Json :=
  notification "window/showMessage" (.object [("type", nat type), ("message", .text message)])

/-- A question with a few choices. -/
def showChoices (number : Nat) (message : String) (choices : List String) : Json :=
  request number "window/showMessageRequest"
    (.object
      [ ("type", nat 3),
        ("message", .text message),
        ("actions", .array (choices.map fun choice => .object [("title", .text choice)])) ])

/-- The token of a work. -/
def token (work : Nat) : Json :=
  .text ("aelys-progress-" ++ toString work)

/-- News about a work. -/
def progress (work : Nat) (value : List (String × Json)) : Json :=
  notification "$/progress" (.object [("token", token work), ("value", .object value)])

/-- The messages for an event, where requests are numbered from `number` on. -/
def messages (number : Nat) : Event → List Json
  | .info message => [showMessage 3 message]
  | .warning message => [showMessage 2 message]
  | .error message => [showMessage 1 message]
  | .prompt message choices => [showChoices number message choices]
  | .pick title items => [showChoices number title items]
  | .input question proposal =>
    [request number "aelys/input"
      (.object [("prompt", .text question), ("value", .text proposal)])]
  | .readOnly content language =>
    [notification "aelys/showReadOnly"
      (.object [("content", .text content), ("language", .text language)])]
  | .terminalSend name text focus =>
    [notification "aelys/terminalSend"
      (.object [("name", .text name), ("text", .text text), ("focus", .bool focus)])]
  | .terminalDispose name =>
    [notification "aelys/terminalDispose" (.object [("name", .text name)])]
  | .progressBegin work title =>
    [ request number "window/workDoneProgress/create" (.object [("token", token work)]),
      progress work
        [("kind", .text "begin"), ("title", .text title), ("cancellable", .bool false)] ]
  | .progressReport work message =>
    [progress work
      [("kind", .text "report"), ("cancellable", .bool false), ("message", .text message)]]
  | .progressEnd work => [progress work [("kind", .text "end")]]
  | .status text => [notification "aelys/status" (.object [("text", .text text)])]

/-- Does the event need a request? -/
def isRequest : Event → Bool
  | .prompt _ _ | .pick _ _ | .input _ _ | .progressBegin _ _ => true
  | _ => false

/-- The messages for events, and the number for the next request. -/
def allMessages (number : Nat) : List Event → List Json × Nat
  | [] => ([], number)
  | event :: rest =>
    let (later, next) := allMessages (if isRequest event then number + 1 else number) rest
    (messages number event ++ later, next)

/-! ## Answers of the editor -/

/-- The answer that a response of the editor gives. -/
def replyOf (response : Json) : Reply :=
  match response.get? "result" with
  | some result => ⟨(result.get? "title").bind Json.text?, result.text?⟩
  | none => .dismissed

end LanguageServer.Outgoing
