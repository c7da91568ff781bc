import LanguageServer.Json.Basic
import LanguageServer.Query.Hover
import LanguageServer.Query.Completion
import LanguageServer.Query.Signature
import LanguageServer.Query.Definition
import LanguageServer.Query.DocumentSymbol

/-!
# Answers as JSON

The answers to queries in the form in which an editor receives them.  A member without a value is
left out.
-/

namespace LanguageServer.Wire

/-- An object of the members that have a value. -/
def object (members : List (String × Option Json)) : Json :=
  .object (members.filterMap fun (key, value) => value.map fun v => (key, v))

/-- A natural number. -/
def nat (n : Nat) : Json := .int n

/-- Formatted text. -/
def markdown (text : String) : Json :=
  .object [("kind", .text "markdown"), ("value", .text text)]

/-- A position. -/
def position (p : Position) : Json :=
  .object [("line", nat p.line), ("character", nat p.character)]

/-- A range. -/
def range (r : Range) : Json :=
  .object [("start", position r.start), ("end", position r.stop)]

/-- A hover text. -/
def hover (text : String) : Json :=
  .object [("contents", markdown text)]

/-! ## Completions -/

/-- The number of a kind of completion. -/
def completionKind : CompletionKind → Nat
  | .method => 2
  | .function => 3
  | .keyword => 14
  | .constant => 21

/-- Documentation. -/
def documentation : Documentation → Json
  | .markdown text => markdown text
  | .plain text => .text text

/-- The text of an insertion. -/
def insertText : Insertion → String
  | .text value => value
  | .snippet value => value

/-- The number of the format of an insertion; plain text has none. -/
def insertFormat? : Insertion → Option Json
  | .text _ => none
  | .snippet _ => some (nat 2)

/-- A completion. -/
def completion (c : Completion) : Json :=
  object
    [ ("label", some (.text c.label)),
      ("kind", some (nat (completionKind c.kind))),
      ("detail", c.detail.map .text),
      ("documentation", some (documentation c.documentation)),
      ("insertText", c.insertion.map fun i => .text (insertText i)),
      ("insertTextFormat", c.insertion.bind insertFormat?) ]

/-! ## Signatures, definitions, symbols -/

/-- A parameter of a signature. -/
def parameter (p : Parameter) : Json :=
  .object [("label", .text p.label), ("documentation", .text p.shown)]

/-- A signature with the number of its marked parameter. -/
def signature (s : SignatureHelp) : Json :=
  .object
    [ ("signatures", .array
        [ .object
          [ ("label", .text s.label),
            ("documentation", markdown s.documentation),
            ("parameters", .array (s.parameters.map parameter)) ] ]),
      ("activeSignature", nat 0),
      ("activeParameter", nat s.active) ]

/-- A definition: an empty range at the beginning of its line. -/
def definition (d : Definition) : Json :=
  .object
    [("uri", .text d.address.text), ("range", range ⟨⟨d.line, 0⟩, ⟨d.line, 0⟩⟩)]

/-- The number of a kind of symbol. -/
def symbolKind : OutlineKind → Nat
  | .function => 12
  | .binding => 13
  | .constant => 14

mutual

/-- A document symbol with those inside it. -/
def symbol : DocumentSymbol → Json
  | ⟨name, detail, kind, covered, selection, children⟩ =>
    object
      [ ("name", some (.text name)),
        ("detail", detail.map .text),
        ("kind", some (nat (symbolKind kind))),
        ("range", some (range covered)),
        ("selectionRange", some (range selection)),
        ("children", if children.isEmpty then none else some (.array (symbols children))) ]

/-- Document symbols. -/
def symbols : List DocumentSymbol → List Json
  | [] => []
  | s :: rest => symbol s :: symbols rest

end

end LanguageServer.Wire
