import LanguageServer.Query.Basic
import LanguageServer.Source.CallSite

/-!
# Signature help

Inside the parentheses of a call the called function is shown with its parameters, and the one that
the cursor stands at is marked.
-/

namespace LanguageServer

/-- A function with its parameters, one of them marked. -/
structure SignatureHelp where
  label : String
  documentation : String
  parameters : List Parameter
  active : Nat
deriving DecidableEq, Repr

namespace Query

/-- The signature for a call, when the called function is known. -/
def signatureAt? (snapshot : Snapshot) (site : CallSite) : Option SignatureHelp :=
  if site.function = "" then none
  else (snapshot.table.lookup snapshot.library site.function).map fun entry =>
    { label := entry.label
      documentation := entry.documentation
      parameters := entry.parameters
      active := site.activeParameter entry.parameters.length }

/-- The signature for the call around a position. -/
def signature? (snapshot : Snapshot) (position : Position) : Option SignatureHelp :=
  (CallSite.locate? snapshot.text (position.byteOffset snapshot.text.toList)).bind
    (signatureAt? snapshot)

end Query

end LanguageServer
