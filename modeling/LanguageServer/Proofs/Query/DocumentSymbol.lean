import LanguageServer.Proofs.Document.Splice
import LanguageServer.Proofs.Source.Outline
import LanguageServer.Query.DocumentSymbol

/-!
# The lines that the nodes of an outline cover

A node of an outline covers the lines from its start to its stop.  `OutlineNode.WellPlaced` says how
these lines lie to those of the nodes inside it: what is inside a node starts after it, ends with it
at the latest if the node covers more than one line, and the nodes next to each other share no line.

The braces of a script may be unbalanced in every way.  What keeps the nodes in order is only that
lines are taken one after the other.  `Builder.Stands` is what holds before a line: everything that
is finished ends before it, and everything inside an open function starts after the function does.
So a function that a line closes covers what is inside it, and what the line declares comes after
all that is finished.  `Builder.Stands.step` says that a line keeps this, and `stands_built` that it
holds at the end of the text.

The symbol of a node selects the first of the lines that the node covers, so a well placed node has
its selection within its range (`Outline.wellPlaced_build`).
-/

namespace LanguageServer

open Text Source Outline

/-! ## Nodes and where they stand -/

namespace OutlineNode

mutual

/-- The node and everything inside it. -/
def nodes : OutlineNode → List OutlineNode
  | ⟨name, kind, detail, start, stop, children⟩ =>
    ⟨name, kind, detail, start, stop, children⟩ :: nodesOf children

/-- The nodes and everything inside them. -/
def nodesOf : List OutlineNode → List OutlineNode
  | [] => []
  | node :: rest => node.nodes ++ nodesOf rest

end

lemma nodes_eq (node : OutlineNode) : node.nodes = node :: nodesOf node.children := by
  obtain ⟨name, kind, detail, start, stop, children⟩ := node
  rw [nodes]

lemma mem_nodesOf {row : List OutlineNode} {node : OutlineNode} :
    node ∈ nodesOf row ↔ ∃ top ∈ row, node ∈ top.nodes := by
  induction row with
  | nil => simp [nodesOf]
  | cons top row ih => simp [nodesOf, ih]

/-- The heading of the node. -/
def heading (node : OutlineNode) : Heading :=
  ⟨node.name, node.kind, node.start⟩

mutual

lemma map_heading_placements (parent : Option Nat) (node : OutlineNode) :
    (node.placements parent).map Placement.heading = node.nodes.map heading := by
  obtain ⟨name, kind, detail, start, stop, children⟩ := node
  rw [placements, nodes, List.map_cons, List.map_cons,
    map_heading_placementsOf (some start) children]
  rfl

lemma map_heading_placementsOf (parent : Option Nat) (row : List OutlineNode) :
    (placementsOf parent row).map Placement.heading = (nodesOf row).map heading := by
  cases row with
  | nil => rfl
  | cons node rest =>
    rw [placementsOf, nodesOf, List.map_append, List.map_append, map_heading_placements parent node,
      map_heading_placementsOf parent rest]

end

/-- The lines of the node and of the nodes inside it lie as they should. -/
structure WellPlaced (node : OutlineNode) : Prop where
  start_le_stop : node.start ≤ node.stop
  start_lt : ∀ inner ∈ nodesOf node.children, node.start < inner.start
  stop_le : node.start < node.stop → ∀ inner ∈ nodesOf node.children, inner.stop ≤ node.stop
  apart : node.children.Pairwise fun earlier later => earlier.stop < later.start
  kind_eq : node.children ≠ [] → node.kind = .function

/-- The node and everything inside it is well placed, on lines from `lower` up to `upper`. -/
def Fits (lower upper : Nat) (node : OutlineNode) : Prop :=
  ∀ inner ∈ node.nodes, inner.WellPlaced ∧ lower ≤ inner.start ∧ inner.stop < upper

/-- Nodes next to each other, the last one first. -/
structure Row (lower upper : Nat) (row : List OutlineNode) : Prop where
  fits : ∀ node ∈ row, node.Fits lower upper
  apart : row.Pairwise fun later earlier => earlier.stop < later.start

variable {lower upper : Nat}

lemma Fits.mono {lower' upper' : Nat} {node : OutlineNode} (h : node.Fits lower upper)
    (hlower : lower' ≤ lower) (hupper : upper ≤ upper') : node.Fits lower' upper' := by
  intro inner hinner
  obtain ⟨hplaced, hstart, hstop⟩ := h inner hinner
  exact ⟨hplaced, by omega, by omega⟩

lemma Row.mono {upper' : Nat} {row : List OutlineNode} (h : Row lower upper row)
    (hupper : upper ≤ upper') : Row lower upper' row :=
  ⟨fun node hnode => (h.fits node hnode).mono (Nat.le_refl _) hupper, h.apart⟩

lemma Row.nil (lower upper : Nat) : Row lower upper [] :=
  ⟨List.forall_mem_nil _, List.Pairwise.nil⟩

/-- A node that comes after a row continues it. -/
lemma Row.cons {between : Nat} {row : List OutlineNode} {node : OutlineNode}
    (h : Row lower between row) (hnode : node.Fits between upper) (hlower : lower ≤ between)
    (hupper : between ≤ upper) : Row lower upper (node :: row) := by
  constructor
  · intro other hother
    rcases List.mem_cons.mp hother with rfl | hother
    · exact hnode.mono hlower (Nat.le_refl _)
    · exact (h.fits other hother).mono (Nat.le_refl _) hupper
  · refine List.pairwise_cons.mpr ⟨fun other hother => ?_, h.apart⟩
    have hself {node : OutlineNode} : node ∈ node.nodes := by
      rw [nodes_eq]
      exact List.mem_cons_self
    have hstart := (hnode node hself).2.1
    have hstop := (h.fits other hother other hself).2.2
    omega

/-- A function fits where it starts, once it ends with what is inside it. -/
lemma Row.fits_function {name detail : String} {start stop : Nat} {inside : List OutlineNode}
    (h : Row (start + 1) upper inside) (hle : start ≤ stop) (hstop : stop < upper)
    (hends : start < stop → ∀ inner ∈ nodesOf inside.reverse, inner.stop ≤ stop) :
    Fits start upper ⟨name, .function, detail, start, stop, inside.reverse⟩ := by
  have hinside : ∀ inner ∈ nodesOf inside.reverse,
      inner.WellPlaced ∧ start + 1 ≤ inner.start ∧ inner.stop < upper := by
    intro inner hinner
    obtain ⟨top, htop, hmem⟩ := mem_nodesOf.mp hinner
    exact h.fits top (List.mem_reverse.mp htop) inner hmem
  intro inner hinner
  rw [nodes_eq] at hinner
  rcases List.mem_cons.mp hinner with rfl | hinner
  · refine ⟨⟨hle, ?_, hends, List.pairwise_reverse.mpr h.apart, fun _ => rfl⟩, Nat.le_refl _, hstop⟩
    exact fun inner hinner => (hinside inner hinner).2.1
  · obtain ⟨hplaced, hstart, hbefore⟩ := hinside inner hinner
    exact ⟨hplaced, by omega, hbefore⟩

lemma fits_leaf (name : String) (kind : OutlineKind) (detail : String) (line : Nat) :
    Fits line (line + 1) ⟨name, kind, detail, line, line, []⟩ := by
  intro inner hinner
  rw [nodes_eq, nodesOf, List.mem_singleton] at hinner
  subst hinner
  refine ⟨⟨Nat.le_refl _, ?_, ?_, List.Pairwise.nil, fun hne => absurd rfl hne⟩, Nat.le_refl _,
    Nat.lt_succ_self _⟩
  all_goals simp [nodesOf]

end OutlineNode

open OutlineNode

/-! ## The outline under way -/

namespace Outline

/-- The open functions started one after the other before the given line, and what is inside each of
them lies between its start and the start of the next one. -/
def Stands (roots : List OutlineNode) : Nat → List OpenFunction → Prop
  | upper, [] => Row 0 upper roots
  | upper, o :: os =>
    o.entry.kind = .function ∧ o.start < upper ∧ Row (o.start + 1) upper o.inside ∧
      Stands roots o.start os

namespace Builder

variable {b : Builder} {line upper : Nat}

/-- Everything in the outline so far is well placed before the given line. -/
def Stands (b : Builder) (upper : Nat) : Prop :=
  Outline.Stands b.roots upper b.opened

lemma Stands.mono (h : b.Stands line) (hle : line ≤ upper) : b.Stands upper := by
  obtain ⟨roots, opened, depth, mark⟩ := b
  cases opened with
  | nil => exact Row.mono h hle
  | cons o os =>
    obtain ⟨hkind, hstart, hinside, houter⟩ := h
    exact ⟨hkind, Nat.lt_of_lt_of_le hstart hle, hinside.mono hle, houter⟩

lemma Stands.attach (h : b.Stands line) {node : OutlineNode} (hnode : node.Fits line upper)
    (hle : line ≤ upper) : (b.attach node).Stands upper := by
  obtain ⟨roots, opened, depth, mark⟩ := b
  cases opened with
  | nil => exact Row.cons h hnode (Nat.zero_le _) hle
  | cons o os =>
    obtain ⟨hkind, hstart, hinside, houter⟩ := h
    exact ⟨hkind, Nat.lt_of_lt_of_le hstart hle, hinside.cons hnode hstart hle, houter⟩

/-- The innermost open function may end on the last line before the given one or where it starts. -/
lemma Stands.finish (h : b.Stands upper) {stop : OpenFunction → Nat}
    (hstop : ∀ o, stop o = o.start ∨ stop o + 1 = upper) : (b.finish stop).Stands upper := by
  obtain ⟨roots, opened, depth, mark⟩ := b
  cases opened with
  | nil => exact h
  | cons o os =>
    obtain ⟨entry, start, opening, inside⟩ := o
    obtain ⟨hkind, hstart, hinside, houter⟩ := h
    obtain ⟨name, kind, detail⟩ := entry
    subst hkind
    have hends := hstop ⟨⟨name, .function, detail⟩, start, opening, inside⟩
    simp only at hstart hinside houter hends
    refine Stands.attach (b := ⟨roots, os, depth, mark⟩) houter ?_ (Nat.le_of_lt hstart)
    refine hinside.fits_function (by omega) (by omega) fun hlt inner hinner => ?_
    obtain ⟨top, htop, hmem⟩ := mem_nodesOf.mp hinner
    have hbefore := (hinside.fits top (List.mem_reverse.mp htop) inner hmem).2.2
    omega

lemma Stands.declare (h : b.Stands line) (hasBody : Bool) (entry : Entry) :
    (b.declare line hasBody entry).Stands (line + 1) := by
  unfold Builder.declare
  split
  · rename_i hopens
    exact ⟨hopens.1, Nat.lt_succ_self line, Row.nil _ _, h⟩
  · exact h.attach (fits_leaf _ _ _ line) (Nat.le_succ line)

lemma Stands.declareOn (h : b.Stands line) (content : List Char) :
    (b.declareOn line content).Stands (line + 1) := by
  simp only [Builder.declareOn]
  split
  · exact h.declare _ _
  · exact h.mono (Nat.le_succ line)

lemma Stands.closeBrace (h : b.Stands (line + 1)) : (b.closeBrace line).Stands (line + 1) := by
  obtain ⟨roots, opened, depth, mark⟩ := b
  cases opened with
  | nil => exact h
  | cons o os =>
    simp only [Builder.closeBrace]
    split
    · exact Stands.finish (b := ⟨roots, o :: os, depth - 1, mark⟩) h fun _ => Or.inr rfl
    · exact h

lemma Stands.closeBraces (h : b.Stands (line + 1)) (count : Nat) :
    (b.closeBraces line count).Stands (line + 1) := by
  induction count generalizing b with
  | zero => exact h
  | succ count ih => exact ih h.closeBrace

/-- **A line keeps everything in its place.** -/
lemma Stands.step (h : b.Stands line) (content : List Char) :
    (b.step line content).Stands (line + 1) := by
  obtain ⟨mark, hstep⟩ := b.step_eq line content
  rw [hstep]
  exact (h.declareOn content).closeBraces _

lemma Stands.run (h : b.Stands line) (ls : List (List Char)) :
    (b.run line ls).Stands (line + ls.length) := by
  induction ls generalizing line b with
  | nil => exact h
  | cons content ls ih =>
    rw [run_cons, List.length_cons, Nat.add_comm ls.length, ← Nat.add_assoc]
    exact ih (h.step content)

lemma Stands.finishAll (h : b.Stands upper) (count : Nat) : (b.finishAll count).Stands upper := by
  induction count generalizing b with
  | zero => exact h
  | succ count ih => exact ih (h.finish fun _ => Or.inl rfl)

end Builder

lemma stands_built (text : String) : (built text).Stands (lines text.toList).length := by
  have h := Builder.Stands.run (b := Builder.empty) (Row.nil 0 0) (lines text.toList)
  rwa [Nat.zero_add] at h

/-- The roots of an outline are a row on the lines of the text. -/
lemma row_build (text : String) : Row 0 (lines text.toList).length (build text).reverse := by
  have hstands := (stands_built text).finishAll (built text).opened.length
  have hclosed := Builder.opened_finishAll (built text) (Nat.le_refl _)
  rw [Builder.Stands, hclosed] at hstands
  rw [build, List.reverse_reverse]
  exact hstands

end Outline

/-! ## Document symbols -/

namespace DocumentSymbol

mutual

/-- The symbol and everything inside it. -/
def symbols : DocumentSymbol → List DocumentSymbol
  | ⟨name, detail, kind, range, selection, children⟩ =>
    ⟨name, detail, kind, range, selection, children⟩ :: symbolsOf children

/-- The symbols and everything inside them. -/
def symbolsOf : List DocumentSymbol → List DocumentSymbol
  | [] => []
  | symbol :: rest => symbol.symbols ++ symbolsOf rest

end

mutual

lemma symbols_ofNode (ls : List (List Char)) (node : OutlineNode) :
    (ofNode ls node).symbols = node.nodes.map (ofNode ls) := by
  obtain ⟨name, kind, detail, start, stop, children⟩ := node
  rw [ofNode, symbols, symbolsOf_ofNodes ls children, nodes, List.map_cons, ofNode]

/-- There is one symbol for each node. -/
lemma symbolsOf_ofNodes (ls : List (List Char)) (row : List OutlineNode) :
    symbolsOf (ofNodes ls row) = (nodesOf row).map (ofNode ls) := by
  cases row with
  | nil => rfl
  | cons node rest =>
    rw [ofNodes, symbolsOf, symbols_ofNode ls node, symbolsOf_ofNodes ls rest, nodesOf,
      List.map_append]

end

end DocumentSymbol

/-- The range lies within the other one. -/
structure Range.Within (range other : Range) : Prop where
  start : other.start.NotAfter range.start
  stop : range.stop.NotAfter other.stop

lemma DocumentSymbol.lineRange_within (ls : List (List Char)) {start stop : Nat}
    (h : start ≤ stop) : (lineRange ls start start).Within (lineRange ls start stop) := by
  refine ⟨Or.inr ⟨rfl, Nat.le_refl 0⟩, ?_⟩
  rcases Nat.lt_or_eq_of_le h with hlt | rfl
  · exact Or.inl hlt
  · exact Or.inr ⟨rfl, Nat.le_refl _⟩

lemma DocumentSymbol.within_ofNode (ls : List (List Char)) {node : OutlineNode}
    (h : node.start ≤ node.stop) : (ofNode ls node).selection.Within (ofNode ls node).range := by
  obtain ⟨name, kind, detail, start, stop, children⟩ := node
  rw [ofNode]
  exact lineRange_within ls h

/-- **The ranges of an outline are well formed**, whatever the braces of the text look like.  The
outline has one node for each line that declares something.  A node ends on a line of the text and
not before it starts.  What is inside it starts after it and, if it covers more than its first line,
does not end after it.  Of two nodes next to each other, one ends before the other starts, and only
functions have something inside them.  The symbol of every node selects a part of its range. -/
theorem Outline.wellPlaced_build (text : String) :
    (nodesOf (build text)).map heading = headings text ∧
      (∀ node ∈ nodesOf (build text),
        node.WellPlaced ∧ node.stop < (lines text.toList).length) ∧
      ((build text).Pairwise fun earlier later => earlier.stop < later.start) ∧
      ∀ snapshot : Snapshot, snapshot.text = text →
        ∀ symbol ∈ DocumentSymbol.symbolsOf (Query.documentSymbols snapshot),
          symbol.selection.Within symbol.range := by
  have hrow := row_build text
  have hnodes : ∀ node ∈ nodesOf (build text),
      node.WellPlaced ∧ node.stop < (lines text.toList).length := by
    intro node hnode
    obtain ⟨top, htop, hmem⟩ := mem_nodesOf.mp hnode
    obtain ⟨hplaced, -, hstop⟩ := hrow.fits top (List.mem_reverse.mpr htop) node hmem
    exact ⟨hplaced, hstop⟩
  refine ⟨?_, hnodes, List.pairwise_reverse.mp hrow.apart, ?_⟩
  · rw [← map_heading_placementsOf none, ← headings_build, placements]
  · rintro snapshot rfl symbol hsymbol
    rw [Query.documentSymbols, DocumentSymbol.symbolsOf_ofNodes] at hsymbol
    obtain ⟨node, hnode, rfl⟩ := List.mem_map.mp hsymbol
    exact DocumentSymbol.within_ofNode _ (hnodes node hnode).1.start_le_stop

end LanguageServer
