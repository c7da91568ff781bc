import LanguageServer.Host.Event

/-!
# The editor

The editor as the server sees it: what it was asked so far, the replies that it will give, and the
widgets that the server remembers: the terminals that it made and the text of the status item.

A reply is taken for every question, in order; when none is left the question counts as dismissed.
An editor that has to confirm every announcement of work takes a reply for it as well, and what it
says does not matter.
-/

namespace LanguageServer

/-- An editor and what the server has asked of it. -/
structure Editor where
  /-- What the server asked, the first event first. -/
  events : List Event
  /-- The replies to come. -/
  replies : List Reply
  /-- Whether announcements of work are confirmed by a reply. -/
  confirmsWork : Bool
  /-- How many works were announced. -/
  works : Nat
  /-- The terminals that the server made, in the order of their names. -/
  terminals : List String
  /-- The text of the status item. -/
  status : Option String
deriving DecidableEq, Repr

namespace Editor

/-- An editor that was not asked anything yet. -/
def fresh (replies : List Reply) (confirmsWork : Bool) : Editor :=
  { events := [], replies, confirmsWork, works := 0, terminals := [], status := none }

/-- Asks something of the editor. -/
def tell (editor : Editor) (event : Event) : Editor :=
  { editor with events := editor.events ++ [event] }

/-- Takes the next reply. -/
def takeReply (editor : Editor) : Reply × Editor :=
  match editor.replies with
  | [] => (.dismissed, editor)
  | reply :: rest => (reply, { editor with replies := rest })

/-- Asks a question and takes the reply. -/
def ask (editor : Editor) (question : Event) : Reply × Editor :=
  (editor.tell question).takeReply

/-- Announces a work and gives it a number. -/
def beginWork (editor : Editor) (title : String) : Nat × Editor :=
  let work := editor.works
  let editor := { editor with works := work + 1 }
  let editor := if editor.confirmsWork then editor.takeReply.2 else editor
  (work, editor.tell (.progressBegin work title))

/-! ## Widgets -/

/-- Puts a name into an ordered list of names, unless it is there. -/
def insertName (name : String) : List String → List String
  | [] => [name]
  | other :: rest =>
    if name = other then other :: rest
    else if name < other then name :: other :: rest
    else other :: insertName name rest

/-- Sends a line to a terminal, which is made if it is not there. -/
def sendToTerminal (editor : Editor) (name text : String) (focus : Bool) : Editor :=
  { editor with terminals := insertName name editor.terminals }.tell (.terminalSend name text focus)

/-- Is there a terminal with the name? -/
def hasTerminal (editor : Editor) (name : String) : Bool :=
  editor.terminals.contains name

/-- Removes every terminal. -/
def disposeTerminals (editor : Editor) : Editor :=
  editor.terminals.foldl (fun e name => e.tell (.terminalDispose name))
    { editor with terminals := [] }

/-- Shows a text in the status item. -/
def setStatus (editor : Editor) (text : String) : Editor :=
  { editor with status := some text }.tell (.status text)

end Editor

end LanguageServer
