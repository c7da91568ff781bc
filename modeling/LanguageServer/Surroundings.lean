import LanguageServer.Host.Editor
import LanguageServer.Toolchain.Feed

/-!
# The surroundings of the server

What the server acts on besides its own memory: the file system, the source of releases and the
editor, together with the wish to stop what is going on.  An `Activity` changes the surroundings and
returns a value; it is an ordinary function, so what it does can be computed and reasoned about.

The wish to stop may be there from the beginning, or it may come while the server waits for
something.  When it comes is told in advance, like the answers of the source of releases
(`Surroundings.interrupted`).
-/

namespace LanguageServer

/-- What the server waits for, unless everything shall stop. -/
inductive Wait where
  | request (request : Feed.Request)
  | compiler
deriving DecidableEq, Repr

/-- What the server acts on. -/
structure Surroundings where
  files : FileTree
  feed : Feed
  editor : Editor
  /-- How many assets were downloaded. -/
  downloads : Nat
  /-- How many times the compiler was called. -/
  compilations : Nat := 0
  /-- Whether everything that takes time shall stop. -/
  cancelled : Bool
  /-- Whether this wish comes during a wait. -/
  interrupted : Wait → Bool := fun _ => false

/-- Is there the wish to stop before the end of a wait? -/
def Surroundings.stops (s : Surroundings) (wait : Wait) : Bool :=
  s.cancelled || s.interrupted wait

/-- Something that is done in the surroundings and returns a value. -/
abbrev Activity := StateM Surroundings

namespace Activity

/-- Changes the editor. -/
def withEditor (change : Editor → Editor) : Activity Unit :=
  modify fun s => { s with editor := change s.editor }

/-- Asks something of the editor. -/
def tell (event : Event) : Activity Unit :=
  withEditor (·.tell event)

/-- Asks a question of the user. -/
def ask (question : Event) : Activity Reply :=
  modifyGet fun s =>
    let (reply, editor) := s.editor.ask question
    (reply, { s with editor })

/-- Announces a work. -/
def beginWork (title : String) : Activity Nat :=
  modifyGet fun s =>
    let (work, editor) := s.editor.beginWork title
    (work, { s with editor })

end Activity

end LanguageServer
