import LanguageServer.Proofs.Source.Scrub
import LanguageServer.Source.Import
import LanguageServer.Source.Outline
import LanguageServer.Source.Symbol

/-!
# Comments and literals do not influence the analysis

Two texts with the same scrubbed form differ in comments and in the contents of closed literals
only.  This file shows that the readers of a text cannot tell them apart, up to what is quoted from
the text as written: the parameters and comments of a symbol, and the parameters and attributes that
the outline shows with a function (`analysis_eq_of_scrub_eq`).

For every reader the argument is the same.  What is compared of its result is a function of the
scrubbed lines, or of the scrubbed text, alone.  The outline is built step by step from the text as
written; beside it runs a builder that sees scrubbed lines and knows no details of functions
(`Outline.shapeStep`), and each step of the one maps to a step of the other
(`Outline.shape_step`).
-/

namespace LanguageServer

open Text Source

/-! ## Imports and function lines -/

lemma Import.scan_eq (text : String) :
    Import.scan text =
      ((lines (scrub text.toList)).zipIdx.map fun (line, number) =>
        Import.onLine number line).flatten := by
  rw [lines_scrub, Import.scan, List.zipIdx_map, List.map_map]
  rfl

lemma FunctionLine.findIn?_eq (text name : String) :
    FunctionLine.findIn? text name =
      (lines (scrub text.toList)).findIdx? fun line =>
        (findAll wordStart FunctionLine.named? line).any fun found =>
          String.ofList found.value == name := by
  rw [lines_scrub, FunctionLine.findIn?, List.findIdx?_map]
  rfl

/-! ## Symbols -/

/-- What a symbol tells about a declaration without quoting from it: its name, the name to look it
up by, its visibility and its line. -/
def Symbol.heading (symbol : Symbol) : String × String × Visibility × Nat :=
  (symbol.name, symbol.qualifiedName, symbol.visibility, symbol.location.line)

lemma Symbol.heading_ofFound (text : List Char) (qualifier : Option String)
    (found : Found Symbol.Head) :
    (Symbol.ofFound text qualifier found).heading =
      (Symbol.ofFound (scrub text) qualifier found).heading := by
  have hline := (masks_scrub text).lineFeeds_takeBytes (byteLength found.before)
  simp only [Symbol.heading, Symbol.ofFound, hline]

lemma Symbol.heading_scan (text : String) (qualifier : Option String) (scope : Scope) :
    (Symbol.scan text qualifier scope).map Symbol.heading =
      ((findAll wordStart Symbol.head? (scrub text.toList)).filter fun found =>
          scope == .current || found.value.visibility == .exported).map fun found =>
        (Symbol.ofFound (scrub text.toList) qualifier found).heading := by
  rw [Symbol.scan, List.map_map]
  exact List.map_congr_left fun found _ => Symbol.heading_ofFound text.toList qualifier found

/-! ## The outline -/

mutual

/-- The node without the details of functions, on every level. -/
def OutlineNode.shape : OutlineNode → OutlineNode
  | ⟨name, kind, detail, start, stop, children⟩ =>
    ⟨name, kind, if kind = .function then "" else detail, start, stop,
      OutlineNode.shapes children⟩

/-- The nodes without the details of functions. -/
def OutlineNode.shapes : List OutlineNode → List OutlineNode
  | [] => []
  | node :: rest => node.shape :: OutlineNode.shapes rest

end

lemma OutlineNode.shapes_eq_map (nodes : List OutlineNode) :
    OutlineNode.shapes nodes = nodes.map OutlineNode.shape := by
  induction nodes with
  | nil => rfl
  | cons node nodes ih => rw [OutlineNode.shapes, ih, List.map_cons]

namespace Outline

/-- The entry without the detail of a function. -/
def Entry.shape (entry : Entry) : Entry :=
  { entry with detail := if entry.kind = .function then "" else entry.detail }

/-- The open function without its details and those of the nodes inside it. -/
def OpenFunction.shape (o : OpenFunction) : OpenFunction :=
  { o with entry := o.entry.shape, inside := o.inside.map OutlineNode.shape }

/-- The outline so far without the details of functions; no attribute waits in it. -/
def Builder.shape (b : Builder) : Builder :=
  { roots := b.roots.map OutlineNode.shape
    opened := b.opened.map OpenFunction.shape
    depth := b.depth
    mark := none }

/-- The shape of the entry that a scrubbed line declares. -/
def shapeOn (scrubbed : List Char) : Option Entry :=
  match (findAll wordStart FunctionLine.head? scrubbed).head? with
  | some found => some ⟨String.ofList found.value.name, .function, ""⟩
  | none =>
    ((findAll wordStart VariableLine.read? scrubbed).head?.map Found.value).map fun v =>
      { name := v.name
        kind := if v.isConstant then .constant else .binding
        detail := (v.type.map (": " ++ ·)).getD "" }

/-- Takes one scrubbed line into the shape of an outline. -/
def shapeStep (b : Builder) (number : Nat) (scrubbed : List Char) : Builder :=
  let braces := dropBlocks scrubbed
  let opens := braces.count '{'
  let hasBody := scrubbed.contains '{' && opens == 0
  let b := match shapeOn scrubbed with
    | some entry => b.declare number hasBody entry
    | none => b
  let b := b.closeBraces number (braces.count '}')
  { b with depth := b.depth + opens }

/-- The shape of the outline of a text with the given scrubbed lines. -/
def shapeOf (scrubbed : List (List Char)) : List OutlineNode :=
  let b := scrubbed.zipIdx.foldl (fun b (line, number) => shapeStep b number line) Builder.empty
  (b.finishAll b.opened.length).roots.reverse

/-! ### The operations of a builder on shapes -/

lemma Builder.shape_attach (node : OutlineNode) (b : Builder) :
    (b.attach node).shape = b.shape.attach node.shape := by
  obtain ⟨roots, opened, depth, mark⟩ := b
  cases opened with
  | nil => rfl
  | cons o os => rfl

lemma Builder.shape_finish {stop : OpenFunction → Nat} (hstop : ∀ o, stop o.shape = stop o)
    (b : Builder) : (b.finish stop).shape = b.shape.finish stop := by
  obtain ⟨roots, opened, depth, mark⟩ := b
  cases opened with
  | nil => rfl
  | cons o os =>
    have hnode : OutlineNode.shape
        ⟨o.entry.name, o.entry.kind, o.entry.detail, o.start, stop o, o.inside.reverse⟩ =
        ⟨o.shape.entry.name, o.shape.entry.kind, o.shape.entry.detail, o.shape.start,
          stop o.shape, o.shape.inside.reverse⟩ := by
      rw [OutlineNode.shape, OutlineNode.shapes_eq_map, List.map_reverse, hstop]
      rfl
    simp only [Builder.finish, Builder.shape_attach, hnode]
    rfl

lemma Builder.shape_closeBrace (line : Nat) (b : Builder) :
    (b.closeBrace line).shape = b.shape.closeBrace line := by
  obtain ⟨roots, opened, depth, mark⟩ := b
  cases opened with
  | nil => rfl
  | cons o os =>
    simp only [Builder.closeBrace, Builder.shape, List.map_cons, OpenFunction.shape]
    split
    · exact Builder.shape_finish (fun _ => rfl) _
    · rfl

lemma Builder.shape_closeBraces (line count : Nat) (b : Builder) :
    (b.closeBraces line count).shape = b.shape.closeBraces line count := by
  induction count generalizing b with
  | zero => rfl
  | succ count ih => rw [Builder.closeBraces, ih, Builder.shape_closeBrace, Builder.closeBraces]

lemma Builder.shape_finishAll (count : Nat) (b : Builder) :
    (b.finishAll count).shape = b.shape.finishAll count := by
  induction count generalizing b with
  | zero => rfl
  | succ count ih =>
    rw [Builder.finishAll, ih, Builder.shape_finish (fun _ => rfl), Builder.finishAll]

lemma Builder.shape_declare (line : Nat) (hasBody : Bool) (entry : Entry) (b : Builder) :
    (b.declare line hasBody entry).shape = b.shape.declare line hasBody entry.shape := by
  have hkind : entry.shape.kind = entry.kind := rfl
  unfold Builder.declare
  rw [hkind]
  by_cases hopens : entry.kind = .function ∧ hasBody = false
  · rw [if_pos hopens, if_pos hopens]
    rfl
  · rw [if_neg hopens, if_neg hopens, Builder.shape_attach]
    rfl

/-- The shape of what a line declares can be read off the scrubbed line, whatever attribute waits
for a function. -/
lemma shape_entryOn (mark : Option String) (line : List Char) :
    (entryOn mark (String.ofList line)).map Entry.shape = shapeOn (scrubLine line) := by
  unfold entryOn shapeOn FunctionLine.find? VariableLine.find?
  rw [String.toList_ofList]
  cases (findAll wordStart FunctionLine.head? (scrubLine line)).head? with
  | some found => rfl
  | none =>
    cases (findAll wordStart VariableLine.read? (scrubLine line)).head? with
    | none => rfl
    | some found =>
      simp only [Option.map_none, Option.map_some, Entry.shape]
      split <;> simp

/-- **A step of the outline maps to a step of its shape.** -/
lemma shape_step (b : Builder) (number : Nat) (line : List Char) :
    (b.step number line).shape = shapeStep b.shape number (scrubLine line) := by
  have hentry := shape_entryOn ((attributeOn (scrubLine line)).or b.mark) line
  simp only [Builder.step, readLine, shapeStep]
  rw [← hentry]
  generalize entryOn ((attributeOn (scrubLine line)).or b.mark) (String.ofList line) = entry
  cases entry with
  | none =>
    simp only [Option.map_none, ← Builder.shape_closeBraces]
    rfl
  | some entry =>
    simp only [Option.map_some, ← Builder.shape_declare, ← Builder.shape_closeBraces]
    rfl

lemma shape_foldl_step (ls : List (List Char)) (number : Nat) (b : Builder) :
    ((ls.zipIdx number).foldl (fun b (line, number) => b.step number line) b).shape =
      ((ls.map scrubLine).zipIdx number).foldl
        (fun b (line, number) => shapeStep b number line) b.shape := by
  induction ls generalizing number b with
  | nil => rfl
  | cons line ls ih =>
    rw [List.map_cons, List.zipIdx_cons, List.zipIdx_cons, List.foldl_cons, List.foldl_cons, ih,
      shape_step]

lemma shape_build (text : String) :
    (build text).map OutlineNode.shape = shapeOf (lines (scrub text.toList)) := by
  have hfold := shape_foldl_step (lines text.toList) 0 Builder.empty
  have hempty : Builder.empty.shape = Builder.empty := rfl
  rw [← lines_scrub, hempty] at hfold
  simp only [build, shapeOf, ← hfold]
  generalize (lines text.toList).zipIdx.foldl (fun b (line, number) => b.step number line)
    Builder.empty = b
  have hopened : b.shape.opened.length = b.opened.length := List.length_map _
  rw [hopened, ← Builder.shape_finishAll, List.map_reverse]
  rfl

end Outline

/-! ## All readers together -/

/-- **Comments and closed literals cannot influence the analysis.**  Two texts with the same
scrubbed form have the same imports, the same lines of functions, symbols with the same headings in
the same order, and the same outline up to the details of functions. -/
theorem analysis_eq_of_scrub_eq {first second : String}
    (h : scrub first.toList = scrub second.toList) :
    Import.scan first = Import.scan second ∧
      (∀ name, FunctionLine.findIn? first name = FunctionLine.findIn? second name) ∧
      (∀ qualifier scope, (Symbol.scan first qualifier scope).map Symbol.heading =
        (Symbol.scan second qualifier scope).map Symbol.heading) ∧
      (Outline.build first).map OutlineNode.shape =
        (Outline.build second).map OutlineNode.shape := by
  refine ⟨?_, fun name => ?_, fun qualifier scope => ?_, ?_⟩
  · rw [Import.scan_eq, Import.scan_eq, h]
  · rw [FunctionLine.findIn?_eq, FunctionLine.findIn?_eq, h]
  · rw [Symbol.heading_scan, Symbol.heading_scan, h]
  · rw [Outline.shape_build, Outline.shape_build, h]

/-- A brace, a parenthesis and a keyword in a literal and in a comment, before a carriage return,
make no difference. -/
theorem analysis_eq_of_scrub_eq_literal_comment :
    let first := "let s = \"é\" // fn g()\r\nfn f(a) \x7b"
    let second := "let s = \"\x7b)\" // needs \r\nfn f(a) \x7b"
    first ≠ second ∧ scrub first.toList = scrub second.toList ∧
      Import.scan first = Import.scan second ∧
      (Symbol.scan first none .current).map Symbol.heading =
        (Symbol.scan second none .current).map Symbol.heading ∧
      (Outline.build first).map OutlineNode.shape =
        (Outline.build second).map OutlineNode.shape := by
  intro first second
  have hne : first ≠ second := by decide
  have hscrub : scrub first.toList = scrub second.toList := by decide +kernel
  have h := analysis_eq_of_scrub_eq hscrub
  exact ⟨hne, hscrub, h.1, h.2.2.1 none .current, h.2.2.2⟩

end LanguageServer
