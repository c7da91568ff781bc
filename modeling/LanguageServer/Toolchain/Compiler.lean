import LanguageServer.File.Tree
import LanguageServer.Text.Class
import LanguageServer.Text.Utf8

/-!
# Calling the compiler

The compiler is a program outside the server.  `Compiler.asm` has it write the assembly of a script
and returns what it printed, or why there is nothing to return.  For a terminal there are the lines
that run a script and that start an interactive session; in them the paths stand between quotes.
-/

namespace LanguageServer

open Text

/-- Why there is no assembly. -/
inductive AsmError where
  /-- The compiler could not be started. -/
  | notStarted (binary : Path) (cause : FileError)
  | cancelled
  /-- The compiler failed and printed a message. -/
  | reported (message : String)
  /-- The compiler failed without a message. -/
  | failed (status : ExitStatus)
deriving DecidableEq, Repr

/-- The names of signals, in the order of their numbers from 1 on. -/
def signalNames : List String :=
  ["SIGHUP", "SIGINT", "SIGQUIT", "SIGILL", "SIGTRAP", "SIGABRT", "SIGBUS", "SIGFPE", "SIGKILL",
    "SIGUSR1", "SIGSEGV", "SIGUSR2", "SIGPIPE", "SIGALRM", "SIGTERM", "SIGSTKFLT", "SIGCHLD",
    "SIGCONT", "SIGSTOP", "SIGTSTP", "SIGTTIN", "SIGTTOU", "SIGURG", "SIGXCPU", "SIGXFSZ",
    "SIGVTALRM", "SIGPROF", "SIGWINCH", "SIGIO", "SIGPWR", "SIGSYS"]

/-- How a process ended, in words. -/
def ExitStatus.text : ExitStatus → String
  | .exited code => "exit status: " ++ toString code
  | .killed signal =>
    let name := if signal = 0 then none else signalNames[signal - 1]?
    "signal: " ++ toString signal ++ (name.map fun n => " (" ++ n ++ ")").getD ""

/-- The message for missing assembly. -/
def AsmError.message : AsmError → String
  | .notStarted binary cause => "Failed to spawn " ++ binary.text ++ ": " ++ cause.message
  | .cancelled => "ASM generation cancelled"
  | .reported message => message
  | .failed status => "aelys asm exited with " ++ status.text

namespace Compiler

/-- The directory that the compiler works in: the chosen one, or else that of the script. -/
def workingDirectory (chosen : Option Path) (script : Path) : Option Path :=
  chosen.or (script.parent?.filter (·.bytes ≠ []))

/-- What a finished compiler has to say. -/
def outcome (result : ProcessResult) : Except AsmError String :=
  if result.status = .exited 0 then .ok (String.ofList (decode result.output))
  else
    let message := decode result.errors
    if isBlankText message then .error (.failed result.status)
    else .error (.reported (String.ofList (trimEnd message)))

/-- The assembly of a script.  The further arguments are separated by blanks. -/
def asm (files : FileTree) (binary script : Path) (further : String) (directory : Option Path)
    (cancelled : Bool) : Except AsmError String :=
  let arguments :=
    [encode "asm".toList, script.bytes, encode "--stdout".toList] ++
      (fields further.toList).map encode
  match files.spawn binary arguments (workingDirectory directory script) with
  | .error cause => .error (.notStarted binary cause)
  | .ok result => if cancelled then .error .cancelled else outcome result

/-! ## Lines for a terminal -/

/-- What a terminal needs before a program name in quotes. -/
def callOperator (windows : Bool) : String :=
  if windows then "& " else ""

/-- The path between quotes. -/
def inQuotes (path : Path) : String :=
  "\"" ++ path.text ++ "\""

/-- The line that runs a script. -/
def runLine (windows : Bool) (binary : Path) (arguments : String) (script : Path) : String :=
  let arguments := trim arguments.toList
  callOperator windows ++ inQuotes binary ++
    (if arguments = [] then "" else " " ++ String.ofList arguments) ++ " " ++ inQuotes script

/-- The line that starts an interactive session. -/
def replLine (windows : Bool) (binary : Path) : String :=
  callOperator windows ++ inQuotes binary ++ " repl"

end Compiler

end LanguageServer
