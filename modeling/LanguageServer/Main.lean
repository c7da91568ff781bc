import LanguageServer.CommandLine
import LanguageServer.Protocol.Frame
import LanguageServer.Protocol.Watch
import LanguageServer.Toolchain.Client

/-!
# The program

The outer layer of the server: it reads frames from standard input, presents the files that matter
to the server as a tree, and writes what the server has to say to standard output.

The server asks its questions in the middle of its work.  Since its work is a function of what it is
given, the layer simply runs it again from the same beginning once the answer to a question has
arrived, and sends only what has not been sent before.  Messages that arrive in the meantime wait.

The layer neither starts programs nor opens connections: compilers count as files that may not be
run, and the source of releases cannot be reached.
-/

namespace LanguageServer.Program

/-- Reads header lines up to the empty one; nothing at the end of the input. -/
partial def readHeader (input : IO.FS.Stream) (lines : List String) :
    IO (Option (List String)) := do
  let line ← input.getLine
  if line.isEmpty then return none
  if line.toList.all Text.isBlank then return some lines.reverse
  readHeader input (line :: lines)

/-- Reads the given number of bytes, or fewer at the end of the input. -/
partial def readBytes (input : IO.FS.Stream) (count : Nat) (read : ByteArray) : IO ByteArray := do
  if read.size ≥ count then return read
  let chunk ← input.read (count - read.size).toUSize
  if chunk.isEmpty then return read
  readBytes input count (read ++ chunk)

/-- Reads a message; nothing at the end of the input. -/
partial def readMessage (input : IO.FS.Stream) : IO (Option Json) := do
  match ← readHeader input [] with
  | none => return none
  | some lines =>
    match Frame.contentLength? lines with
    | none => readMessage input
    | some count =>
      let bytes ← readBytes input count .empty
      match (textOfBytes? bytes.toList).bind Json.parse? with
      | some message => return some message
      | none => readMessage input

/-- Writes messages. -/
def send (output : IO.FS.Stream) (messages : List Json) : IO Unit := do
  for message in messages do
    output.putStr (Frame.render message)
  output.flush

/-- The content of a file, if it can be read. -/
def readContent (path : Path) : IO (Option Content) := do
  try
    let bytes ← IO.FS.readBinFile path.text
    return some (Client.contentOf bytes.toList)
  catch _ => return none

/-- The files with the given paths, as a tree. -/
def readTree (paths : List Path) : IO FileTree := do
  let files ← paths.filterMapM fun path => do
    return (← readContent path).map fun content => (path, content)
  return .ofFiles files

/-- The state of the program between two messages. -/
structure State where
  server : Server
  surroundings : Surroundings
  /-- Messages that arrived while the server waited for an answer. -/
  waiting : List Json

/-- The next message: one that waits, or else one from the input. -/
def nextMessage (input : IO.FS.Stream) (state : State) : IO (Option (Json × State)) := do
  match state.waiting with
  | message :: rest => return some (message, { state with waiting := rest })
  | [] => return (← readMessage input).map fun message => (message, state)

/-- Waits for the answer to the request with the number; other messages are put aside. -/
partial def awaitAnswer (input : IO.FS.Stream) (number : Nat) (aside : List Json) :
    IO (Option (Json × List Json)) := do
  match ← readMessage input with
  | none => return none
  | some message =>
    if Incoming.isAnswer message && (message.get? "id").bind Json.nat? == some number then
      return some (message, aside)
    else awaitAnswer input number (aside ++ [message])

/-- Is the message a request to the editor? -/
def isRequest (message : Json) : Bool :=
  (message.get? "id").isSome

/-- The messages up to and including the request that comes after `answered` others, and whether
there is such a request. -/
def upToRequest (answered : Nat) : List Json → List Json × Bool
  | [] => ([], false)
  | message :: rest =>
    if isRequest message then
      match answered with
      | 0 => ([message], true)
      | answered + 1 =>
        let (messages, found) := upToRequest answered rest
        (message :: messages, found)
    else
      let (messages, found) := upToRequest answered rest
      (message :: messages, found)

/-- Has the server take a message, given the answers of the editor so far, of whose messages `sent`
are sent already. -/
partial def settle (machine : Machine) (input output : IO.FS.Stream) (state : State)
    (message : Incoming) (answers : List Json) (sent : Nat) : IO (Outcome × State) := do
  let surroundings := { state.surroundings with
    editor := { state.surroundings.editor with replies := answers.map Outgoing.replyOf } }
  let (((outcome, messages), server), surroundings) :=
    (state.server.step machine message).run surroundings
  let (certain, asks) := upToRequest answers.length messages
  send output (certain.drop sent)
  if asks then
    match ← awaitAnswer input (state.server.nextRequest + answers.length) [] with
    | none => return (.exited, state)
    | some (answer, aside) =>
      let state := { state with waiting := state.waiting ++ aside }
      settle machine input output state message (answers ++ [answer]) certain.length
  else
    return (outcome, { state with server, surroundings })

/-- Takes messages until there are no more. -/
partial def serve (machine : Machine) (input output : IO.FS.Stream) (state : State) :
    IO Unit := do
  match ← nextMessage input state with
  | none => return
  | some (json, state) =>
    match if Incoming.isAnswer json then none else Incoming.ofJson? json with
    | none => serve machine input output state
    | some message =>
      let files ← readTree (state.server.session.watched machine)
      let state := { state with surroundings := { state.surroundings with files } }
      let (outcome, state) ← settle machine input output state message [] 0
      match outcome with
      | .exited => return
      | .silent =>
        if state.server.phase = .exited then return
        serve machine input output state
      | .response response =>
        send output [response]
        serve machine input output state

/-- Serves an editor on standard input and output. -/
def serveStandard : IO Unit := do
  let storage := Machine.storageDirectory (← IO.getEnv "XDG_DATA_HOME") (← IO.getEnv "HOME")
  let machine : Machine := ⟨storage, Platform.ofHost? "linux" "x86_64", false⟩
  let surroundings : Surroundings :=
    { files := .empty
      feed := (Client.ofBase Client.officialBase).feed fun _ => none
      editor := .fresh [] true
      downloads := 0
      cancelled := false }
  serve machine (← IO.getStdin) (← IO.getStdout) ⟨.start, surroundings, []⟩

end LanguageServer.Program

open LanguageServer in
/-- Does what the arguments ask for. -/
def main (arguments : List String) : IO UInt32 := do
  match CommandLine.read arguments with
  | .ok .version =>
    IO.print CommandLine.versionText
    return 0
  | .ok .usage =>
    IO.print CommandLine.usageText
    return 0
  | .ok .serve =>
    Program.serveStandard
    return 0
  | .error argument =>
    IO.eprint (CommandLine.unknownText argument)
    return 1
