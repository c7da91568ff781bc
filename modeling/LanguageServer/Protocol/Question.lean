import LanguageServer.Protocol.Wire

/-!
# Questions about a document

The questions that an editor asks about an open document, and their answers as JSON.  Where there is
nothing to say the answer is `null`.
-/

namespace LanguageServer

/-- A question about a document. -/
inductive Question where
  | hover (position : Position)
  | completion (position : Position)
  | signature (position : Position)
  | definition (position : Position)
  | symbols
deriving DecidableEq, Repr

namespace Question

/-- The encoding of a value that may be missing. -/
def orNull (encode : α → Json) : Option α → Json
  | some value => encode value
  | none => .null

/-- The answer to a question. -/
def answer (snapshot : Snapshot) : Question → Json
  | .hover position => orNull Wire.hover (Query.hover? snapshot position)
  | .completion position =>
    orNull (fun items => .array (items.map Wire.completion)) (Query.completions? snapshot position)
  | .signature position => orNull Wire.signature (Query.signature? snapshot position)
  | .definition position => orNull Wire.definition (Query.definition? snapshot position)
  | .symbols => .array (Wire.symbols (Query.documentSymbols snapshot))

end Question

end LanguageServer
