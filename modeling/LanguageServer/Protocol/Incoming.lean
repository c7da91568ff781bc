import LanguageServer.Document
import LanguageServer.Address.File
import LanguageServer.Json.Basic
import LanguageServer.Protocol.Question

/-!
# Messages from the editor

A message names a method, may carry parameters, and is a request exactly if it has an id.  The
methods fall into classes by what the server does about them (`Method`); most methods of the
protocol are known to the server without being offered.
-/

namespace LanguageServer

/-- A message from the editor. -/
structure Incoming where
  method : String
  id : Option Json
  parameters : Option Json

/-- Reads a message.  A message without a method names the empty one. -/
def Incoming.ofJson? (message : Json) : Option Incoming := do
  let method ← match message.get? "method" with
    | some method => method.text?
    | none => some ""
  some ⟨method, message.get? "id", message.get? "params"⟩

/-- Is the message an answer to a request of the server? -/
def Incoming.isAnswer (message : Json) : Bool :=
  (message.get? "id").isSome &&
    ((message.get? "result").isSome || (message.get? "error").isSome)

/-! ## Methods -/

/-- A question about a document, before its position is known. -/
inductive QuestionKind where
  | hover
  | completion
  | signature
  | definition
  | symbols
deriving DecidableEq, Repr

/-- What the server does about a method. -/
inductive Method where
  /-- Begins the session. -/
  | beginSession
  /-- Ends the session. -/
  | endSession
  /-- Ends the server. -/
  | exit
  /-- A notification that a request shall be given up.  Requests are carried out one at a time, so
  none is left to give up. -/
  | cancel
  /-- A request about a document. -/
  | question (kind : QuestionKind)
  /-- A request to carry out a command. -/
  | executeCommand
  /-- A notification that the editor is ready. -/
  | ready
  | openDocument
  | changeDocument
  | closeDocument
  | configure
  /-- A request that is known but not offered. -/
  | notOffered
  /-- A notification that is known and has no effect. -/
  | noEffect
  /-- Anything else. -/
  | unknown
deriving DecidableEq, Repr

namespace Method

/-- The methods with an effect or an answer. -/
def offered : List (String × Method) :=
  [ ("initialize", .beginSession),
    ("shutdown", .endSession),
    ("exit", .exit),
    ("$/cancelRequest", .cancel),
    ("initialized", .ready),
    ("textDocument/didOpen", .openDocument),
    ("textDocument/didChange", .changeDocument),
    ("textDocument/didClose", .closeDocument),
    ("workspace/didChangeConfiguration", .configure),
    ("textDocument/hover", .question .hover),
    ("textDocument/completion", .question .completion),
    ("textDocument/signatureHelp", .question .signature),
    ("textDocument/definition", .question .definition),
    ("textDocument/documentSymbol", .question .symbols),
    ("workspace/executeCommand", .executeCommand) ]

/-- Requests of the protocol that are not offered. -/
def otherRequests : List String :=
  [ "textDocument/willSaveWaitUntil", "textDocument/declaration", "textDocument/typeDefinition",
    "textDocument/implementation", "textDocument/references",
    "textDocument/prepareCallHierarchy", "callHierarchy/incomingCalls",
    "callHierarchy/outgoingCalls", "textDocument/prepareTypeHierarchy",
    "typeHierarchy/supertypes", "typeHierarchy/subtypes", "textDocument/documentHighlight",
    "textDocument/documentLink", "documentLink/resolve", "textDocument/codeLens",
    "codeLens/resolve", "textDocument/foldingRange", "textDocument/selectionRange",
    "textDocument/semanticTokens/full", "textDocument/semanticTokens/full/delta",
    "textDocument/semanticTokens/range", "textDocument/inlineValue", "textDocument/inlayHint",
    "inlayHint/resolve", "textDocument/moniker", "completionItem/resolve",
    "textDocument/diagnostic", "workspace/diagnostic", "textDocument/codeAction",
    "codeAction/resolve", "textDocument/documentColor", "textDocument/colorPresentation",
    "textDocument/formatting", "textDocument/rangeFormatting", "textDocument/onTypeFormatting",
    "textDocument/rename", "textDocument/prepareRename", "textDocument/linkedEditingRange",
    "workspace/symbol", "workspaceSymbol/resolve", "workspace/willCreateFiles",
    "workspace/willRenameFiles", "workspace/willDeleteFiles" ]

/-- Notifications of the protocol that have no effect. -/
def otherNotifications : List String :=
  [ "textDocument/willSave", "textDocument/didSave", "workspace/didChangeWorkspaceFolders",
    "workspace/didCreateFiles", "workspace/didRenameFiles", "workspace/didDeleteFiles",
    "workspace/didChangeWatchedFiles" ]

/-- The class of a method. -/
def ofName (name : String) : Method :=
  match offered.find? (·.1 == name) with
  | some (_, method) => method
  | none =>
    if otherRequests.contains name then .notOffered
    else if otherNotifications.contains name then .noEffect
    else .unknown

/-- Is the method one of a notification? -/
def isNotification : Method → Bool
  | .ready | .openDocument | .changeDocument | .closeDocument | .configure | .noEffect => true
  | _ => false

end Method

/-! ## Parameters -/

namespace Incoming

/-- The address of the document that the parameters are about. -/
def address? (parameters : Json) : Option Address := do
  Address.parse? (← (← (← parameters.get? "textDocument").get? "uri").text?)

/-- A position. -/
def position? (value : Json) : Option Position := do
  some ⟨← (← value.get? "line").nat?, ← (← value.get? "character").nat?⟩

/-- A range. -/
def range? (value : Json) : Option Range := do
  some ⟨← position? (← value.get? "start"), ← position? (← value.get? "end")⟩

/-- A change of a document. -/
def change? (value : Json) : Option Change := do
  let text ← (← value.get? "text").text?
  match value.get? "range" with
  | none => some ⟨none, text⟩
  | some .null => some ⟨none, text⟩
  | some range => some ⟨← range? range, text⟩

/-- A question of the given kind. -/
def question? (kind : QuestionKind) (parameters : Json) : Option Question :=
  match kind with
  | .symbols => some .symbols
  | .hover => (parameters.get? "position").bind position? |>.map .hover
  | .completion => (parameters.get? "position").bind position? |>.map .completion
  | .signature => (parameters.get? "position").bind position? |>.map .signature
  | .definition => (parameters.get? "position").bind position? |>.map .definition

end Incoming

end LanguageServer
