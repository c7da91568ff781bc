/-!
# What the server asks of an editor

Everything that the server wants a user to see or to decide goes through the editor.  An `Event` is
one such wish.  Three kinds of events ask a question: a prompt with a few choices, a pick from a
list, and an input of free text.

A work that takes time is announced, reported on and ended under a number of its own.
-/

namespace LanguageServer

/-- Something that the server asks of an editor. -/
inductive Event where
  | info (message : String)
  | warning (message : String)
  | error (message : String)
  | prompt (message : String) (choices : List String)
  | pick (title : String) (items : List String)
  | input (question proposal : String)
  | readOnly (content language : String)
  | terminalSend (name text : String) (focus : Bool)
  | terminalDispose (name : String)
  | progressBegin (work : Nat) (title : String)
  | progressReport (work : Nat) (message : String)
  | progressEnd (work : Nat)
  | status (text : String)
deriving DecidableEq, Repr

/-- The answer of a user to a question, as it reads in each of its two forms.  No answer means that
the question was dismissed. -/
structure Reply where
  /-- The answer to a prompt or a pick. -/
  choice : Option String
  /-- The answer to an input. -/
  entry : Option String
deriving DecidableEq, Repr

namespace Reply

/-- A dismissed question. -/
def dismissed : Reply := ⟨none, none⟩

/-- An answer that reads the same in both forms. -/
def ofText (answer : Option String) : Reply := ⟨answer, answer⟩

end Reply

end LanguageServer
