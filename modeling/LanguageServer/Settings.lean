import LanguageServer.Json.Basic
import LanguageServer.File.Path
import LanguageServer.Text.Class

/-!
# Settings

What a user may configure.  An editor sends the settings as a JSON value, either as they are or
under the name `aelys`.  They count only if at least one of the known sections is there; an absent
or unsuitable entry then keeps its default, and a path of blanks is no path.
-/

namespace LanguageServer

open Text

/-- The settings of a user. -/
structure Settings where
  /-- Arguments for the compiler when it writes assembly. -/
  asmArguments : String
  /-- Arguments before the script when it is run. -/
  runArguments : String
  /-- The compiler to use in place of the installed one. -/
  compiler : Option Path
  /-- The directory for the installed compiler. -/
  storage : Option Path
  /-- Whether to look for a newer compiler at startup. -/
  checksUpdates : Bool
deriving DecidableEq, Repr

namespace Settings

/-- The settings of a user who configured nothing. -/
def default : Settings :=
  { asmArguments := "-O0"
    runArguments := "--allow-caps=fs"
    compiler := none
    storage := none
    checksUpdates := true }

/-- The path that a value gives, without blanks at its ends; blanks alone give none. -/
def path? (value : Json) : Option Path :=
  value.text?.bind fun text =>
    let text := trim text.toList
    if text = [] then none else some (.ofText (String.ofList text))

/-- The entry of a section. -/
def value? (part : Option Json) (key : String) : Option Json :=
  part.bind (·.get? key)

/-- The settings that a JSON value gives; none when it has no known section. -/
def parse? (value : Json) : Option Settings :=
  let root := (value.get? "aelys").getD value
  let asm := root.get? "asm"
  let run := root.get? "run"
  let compiler := root.get? "compiler"
  let updates := root.get? "updates"
  if asm.isNone && run.isNone && compiler.isNone && updates.isNone then none
  else some
    { asmArguments :=
        ((value? asm "defaultArguments").bind Json.text?).getD default.asmArguments
      runArguments := ((value? run "arguments").bind Json.text?).getD default.runArguments
      compiler := (value? compiler "path").bind path?
      storage := (value? compiler "storageDir").bind path?
      checksUpdates :=
        ((value? updates "checkOnStartup").bind Json.bool?).getD default.checksUpdates }

end Settings

end LanguageServer
