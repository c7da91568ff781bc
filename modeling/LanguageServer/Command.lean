import LanguageServer.Address.File
import LanguageServer.Settings
import LanguageServer.Json.Basic
import LanguageServer.Toolchain.Compiler
import LanguageServer.Toolchain.Update

/-!
# Commands

What a user can have the server do: run a script, look at its assembly, work in an interactive
session, and install compilers.  A command has a name and a list of JSON arguments; an argument of
the wrong type counts as missing.

A command about a script takes the address of its file.  Before the compiler is needed the script is
checked, and before it is used the compiler is ensured.
-/

namespace LanguageServer

/-- A command of the server. -/
inductive Command where
  | run
  | inspect
  | inspectWithArguments
  | openRepl
  | sendToRepl
  | update
  | installVersion
  | refreshStatus
deriving DecidableEq, Repr

namespace Command

open Activity

/-- All commands, in the order in which they are announced. -/
def all : List Command :=
  [.run, .inspect, .inspectWithArguments, .openRepl, .sendToRepl, .update, .installVersion,
    .refreshStatus]

/-- The name that a command is called by. -/
def name : Command → String
  | .run => "aelys.run"
  | .inspect => "aelys.inspectBytecode"
  | .inspectWithArguments => "aelys.inspectBytecodeWithArgs"
  | .openRepl => "aelys.openRepl"
  | .sendToRepl => "aelys.sendToRepl"
  | .update => "aelys.update"
  | .installVersion => "aelys.installVersion"
  | .refreshStatus => "aelys.refreshStatus"

/-- The command with the name. -/
def ofName? (text : String) : Option Command :=
  all.find? (·.name == text)

/-- The message for a name that belongs to no command. -/
def unknown (text : String) : String :=
  "Unknown command: " ++ text

/-- What a command works with. -/
structure Context where
  toolchain : Toolchain
  settings : Settings
  /-- Whether terminals need an operator before a program name in quotes. -/
  windows : Bool

/-- The terminal for the output of scripts. -/
def outputTerminal : String := "Aelys Output"

/-- The terminal for the interactive session. -/
def replTerminal : String := "Aelys REPL"

/-! ## Arguments -/

/-- The text that is given as an argument. -/
def textArgument? (arguments : List Json) (index : Nat) : Option String :=
  (arguments[index]?).bind Json.text?

/-- The script that an address names, if its ending is that of a script. -/
def script? (address : Option String) : Option Path := do
  let path ← (← Address.parse? (← address)).path?
  let ending ← path.extension?
  if ending = Text.encode "aelys".toList || ending = Text.encode "ae".toList then some path
  else none

/-- The script that an address names.  The user is told when there is none. -/
def requireScript (address : Option String) : Activity (Option Path) := do
  let script := script? address
  if script.isNone then
    tell (.error "Open an Aelys file to run it.")
  return script

/-! ## Carrying out commands -/

/-- Does something with a script and a compiler, when both are there. -/
def withCompiler (context : Context) (address : Option String)
    (use : Path → Path → Activity Unit) : Activity Unit := do
  match ← requireScript address with
  | none => return
  | some script =>
    match ← context.toolchain.ensureBinary with
    | none => return
    | some binary => use script binary

/-- Runs a script in a terminal. -/
def runScript (context : Context) (address : Option String) : Activity Unit :=
  withCompiler context address fun script binary =>
    let line := Compiler.runLine context.windows binary context.settings.runArguments script
    withEditor (·.sendToTerminal outputTerminal line true)

/-- Calls the compiler for the assembly of a script. -/
def assemble (further : String) (script binary : Path) : Activity (Except AsmError String) :=
  modifyGet fun s =>
    let result := Compiler.asm s.files binary script further none (s.stops .compiler)
    (result, { s with
      compilations := s.compilations + 1
      cancelled := s.cancelled || result matches .error .cancelled })

/-- Shows the assembly of a script, or why there is none. -/
def showAssembly (further : String) (script binary : Path) : Activity Unit := do
  let work ← beginWork ("Aelys: Generating ASM (" ++ further ++ ")...")
  let result ← assemble further script binary
  tell (.progressEnd work)
  match result with
  | .ok asm => tell (.readOnly asm "aelys")
  | .error e => tell (.error ("ASM Error: " ++ e.message))

/-- Shows the assembly of a script, once there is a compiler. -/
def inspectScript (context : Context) (address : Option String) (further : String) :
    Activity Unit :=
  withCompiler context address (showAssembly further)

/-- The further arguments for the compiler: those given, or else what the user enters. -/
def asmArguments? (context : Context) (arguments : List Json) : Activity (Option String) := do
  match textArgument? arguments 1 with
  | some given => return some given
  | none =>
    let reply ← ask (.input "Enter ASM generation arguments (e.g., -O3 -Wall)"
      context.settings.asmArguments)
    return reply.entry

/-- Starts an interactive session in a terminal. -/
def startRepl (context : Context) : Activity Unit := do
  match ← context.toolchain.ensureBinary with
  | none => return
  | some binary =>
    let line := Compiler.replLine context.windows binary
    withEditor (·.sendToTerminal replTerminal line true)

/-- Sends a text to the interactive session. -/
def sendText (text : String) : Activity Unit :=
  if text = "" then tell (.warning "No text selected to send to REPL.")
  else withEditor (·.sendToTerminal replTerminal text false)

/-- Lets the user pick a release and installs it. -/
def pickRelease (toolchain : Toolchain) (releases : List Release) : Activity (Option String) := do
  let reply ← ask (.pick "Select Aelys version to install" (releases.map (·.describe)))
  match reply.choice.bind fun label => releases.find? (·.describe == label) with
  | none => return none
  | some release => toolchain.installWithProgress release.tag

/-- Installs the release with the tag, or one that the user picks. -/
def installRelease (toolchain : Toolchain) (tag : Option String) : Activity (Option String) := do
  match tag with
  | some tag => toolchain.installWithProgress tag
  | none =>
    match (← get).feed.all with
    | .ok [] =>
      tell (.error InstallError.noReleases.message)
      return none
    | .ok releases => pickRelease toolchain releases
    | .error message =>
      tell (.error ("Failed to install Aelys: " ++ (InstallError.network message).message))
      return none

/-- Carries out a command.  Commands that install a release return its tag. -/
def execute (context : Context) (arguments : List Json) : Command → Activity (Option String)
  | .run => do
    runScript context (textArgument? arguments 0)
    return none
  | .inspect => do
    inspectScript context (textArgument? arguments 0) context.settings.asmArguments
    return none
  | .inspectWithArguments => do
    if let some further ← asmArguments? context arguments then
      inspectScript context (textArgument? arguments 0) further
    return none
  | .openRepl => do
    startRepl context
    return none
  | .sendToRepl => do
    sendText ((textArgument? arguments 0).getD "")
    return none
  | .update => context.toolchain.installWithProgress Toolchain.latestTag
  | .installVersion => installRelease context.toolchain (textArgument? arguments 0)
  | .refreshStatus => do
    context.toolchain.refreshStatus
    return none

/-- Carries out the command with the name.  Returns the text that a command yields, or a message
when there is no such command. -/
def call (context : Context) (name : String) (arguments : List Json) :
    Activity (Except String (Option String)) := do
  match ofName? name with
  | none => return .error (unknown name)
  | some command => return .ok (← command.execute context arguments)

end Command

end LanguageServer
