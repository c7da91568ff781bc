import LanguageServer.Protocol.Server

/-!
# The command line

The program is told what to do by its arguments, of which the first that asks for information
decides.  Without arguments it explains itself.
-/

namespace LanguageServer

/-- What the program is asked to do. -/
inductive Mode where
  | serve
  | version
  | usage
deriving DecidableEq, Repr

namespace CommandLine

/-- Reads arguments, where `mode` is what those before them ask for.  Returns the argument that is
not known, if there is one. -/
def readFrom (mode : Mode) : List String → Except String Mode
  | [] => .ok mode
  | argument :: rest =>
    if argument = "--stdio" then readFrom .serve rest
    else if argument = "--version" then .ok .version
    else if argument = "--help" then .ok .usage
    else .error argument

/-- What the arguments ask for. -/
def read (arguments : List String) : Except String Mode :=
  readFrom .usage arguments

/-- The name and the version of the program. -/
def versionLine : String :=
  Server.name ++ " " ++ Server.version

/-- What the version request prints. -/
def versionText : String := versionLine ++ "\n"

/-- What the program prints about itself. -/
def usageText : String :=
  versionLine ++ ", a language server for the Aelys scripting language.\n\n" ++
  "Usage: aelys-ls [OPTIONS]\n\n" ++
  "Available options:\n\n" ++
  "--stdio                      Start the LSP server using stdio transport\n" ++
  "--version                    Print the version\n" ++
  "--help                       Print this help message\n\n" ++
  "Logging goes to stderr and is filtered with RUST_LOG (default: warn).\n"

/-- What the program prints about an argument that it does not know. -/
def unknownText (argument : String) : String :=
  "Error: Unknown argument: '" ++ argument ++ "'\n"

end CommandLine

end LanguageServer
