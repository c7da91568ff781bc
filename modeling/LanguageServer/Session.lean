import LanguageServer.Command
import LanguageServer.Workspace

/-!
# A session with an editor

What the server remembers while an editor is connected: the open documents and the settings of the
user.  Settings that arrive later replace the earlier ones as a whole, unless they say nothing.

When the editor is ready the status item is filled in and, if the user wants it, newer compilers are
looked for.  At the end of the session everything that takes time is stopped and the terminals are
removed.
-/

namespace LanguageServer

/-- What does not change while the server runs. -/
structure Machine where
  /-- The directory for compilers unless another is configured. -/
  storage : Path
  /-- The platform that compilers are chosen for. -/
  platform : Option Platform
  /-- Whether terminals need an operator before a program name in quotes. -/
  windows : Bool
deriving DecidableEq, Repr

/-- What the server remembers of an editor. -/
structure Session where
  workspace : Workspace
  settings : Settings

namespace Session

/-- A session that has just begun. -/
def start : Session := ⟨.empty, .default⟩

/-- The session with new settings, unless the value has none. -/
def configure (session : Session) (value : Json) : Session :=
  { session with settings := (Settings.parse? value).getD session.settings }

/-- The toolchain that the settings ask for. -/
def toolchain (session : Session) (machine : Machine) : Toolchain :=
  { storage := session.settings.storage.getD machine.storage
    compiler := session.settings.compiler
    platform := machine.platform }

/-! ## Documents -/

/-- Changes a document and gives it a new version. -/
def changeDocument (session : Session) (address : Address) (changes : List Change)
    (version : Int) : Session :=
  let changed := changes.foldl (fun w change => w.change address change) session.workspace
  { session with workspace := changed.setVersion address version }

/-- What a query about a document may look at. -/
def snapshot? (session : Session) (library : Library) (files : FileTree) (address : Address) :
    Option Snapshot :=
  session.workspace.snapshot? library files address

/-! ## Activities -/

/-- What is done once the editor is ready. -/
def ready (session : Session) (machine : Machine) : Activity Unit := do
  let toolchain := session.toolchain machine
  toolchain.refreshStatus
  if session.settings.checksUpdates then
    toolchain.checkForUpdate

/-- What is done at the end of the session. -/
def finish : Activity Unit :=
  modify fun s => { s with cancelled := true, editor := s.editor.disposeTerminals }

/-- Carries out the command with the name, for the settings of the session. -/
def execute (session : Session) (machine : Machine) (name : String) (arguments : List Json) :
    Activity (Except String (Option String)) :=
  Command.call
    { toolchain := session.toolchain machine
      settings := session.settings
      windows := machine.windows }
    name arguments

end Session

end LanguageServer
