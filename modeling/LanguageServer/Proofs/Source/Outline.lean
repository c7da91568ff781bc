import Mathlib.Data.List.Nodup
import Mathlib.Tactic.Common
import LanguageServer.Source.Outline

/-!
# The nodes of an outline in order

`Outline.placements` lists the nodes of an outline in preorder, each with the line of the node above
it.  This file follows the list through the construction of an outline.

While the outline is being built, a function that is still open has a place in the order already:
it comes after everything that is finished and before everything inside it.  The open functions are
the rightmost path of the outline, so a new node always comes last (`Builder.placements_attach`,
`Builder.placements_declare`), and to end a function moves nothing (`Builder.placements_finish`).
The line where an open function will end is not known then; the list takes it from a function of the
line where it starts, and what is said about names and places holds for every such function.

Whatever the braces look like, the outline holds one node for each line that declares something, in
the order of the lines (`headings_build`).
-/

namespace LanguageServer

open Text Source

namespace Outline

/-! ## Preorder -/

/-- A node of an outline without the nodes inside it, and its place. -/
structure Placement where
  /-- The line of the node that it stands in; a root stands in none. -/
  parent : Option Nat
  entry : Entry
  start : Nat
  stop : Nat
deriving DecidableEq, Repr

end Outline

open Outline

mutual

/-- The node and everything inside it in preorder, for a node inside the one of the given line. -/
def OutlineNode.placements (parent : Option Nat) : OutlineNode → List Placement
  | ⟨name, kind, detail, start, stop, children⟩ =>
    ⟨parent, ⟨name, kind, detail⟩, start, stop⟩ :: OutlineNode.placementsOf (some start) children

/-- The nodes and everything inside them in preorder. -/
def OutlineNode.placementsOf (parent : Option Nat) : List OutlineNode → List Placement
  | [] => []
  | node :: rest => node.placements parent ++ OutlineNode.placementsOf parent rest

end

lemma OutlineNode.placementsOf_append (parent : Option Nat) (before after : List OutlineNode) :
    placementsOf parent (before ++ after) =
      placementsOf parent before ++ placementsOf parent after := by
  induction before with
  | nil => rfl
  | cons node before ih => rw [List.cons_append, placementsOf, ih, placementsOf, List.append_assoc]

lemma OutlineNode.placementsOf_singleton (parent : Option Nat) (node : OutlineNode) :
    placementsOf parent [node] = node.placements parent := by
  rw [placementsOf, placementsOf, List.append_nil]

namespace Outline

/-- The nodes of an outline in preorder. -/
def placements (roots : List OutlineNode) : List Placement :=
  OutlineNode.placementsOf none roots

/-! ## The order while the outline is being built -/

/-- The line of the innermost of the open functions. -/
def innermost? (opened : List OpenFunction) : Option Nat :=
  opened.head?.map (·.start)

/-- The open functions and everything inside them in preorder.  An open function that starts on a
line ends where `stop` says. -/
def openPlacements (stop : Nat → Nat) : List OpenFunction → List Placement
  | [] => []
  | o :: os =>
    openPlacements stop os ++
      ⟨innermost? os, o.entry, o.start, stop o.start⟩ ::
        OutlineNode.placementsOf (some o.start) o.inside.reverse

namespace Builder

variable (stop : Nat → Nat) (b : Builder)

/-- The nodes of the outline so far in preorder. -/
def placements : List Placement :=
  Outline.placements b.roots.reverse ++ openPlacements stop b.opened

/-- A new node comes last, inside the innermost open function. -/
lemma placements_attach (node : OutlineNode) :
    (b.attach node).placements stop =
      b.placements stop ++ node.placements (innermost? b.opened) := by
  obtain ⟨roots, opened, depth, mark⟩ := b
  cases opened with
  | nil =>
    simp only [attach, placements, Outline.placements, openPlacements, List.append_nil,
      List.reverse_cons, OutlineNode.placementsOf_append, OutlineNode.placementsOf_singleton]
    rfl
  | cons o os =>
    simp only [attach, placements, openPlacements, List.reverse_cons,
      OutlineNode.placementsOf_append, OutlineNode.placementsOf_singleton, List.append_assoc,
      List.cons_append]
    rfl

lemma depth_attach (node : OutlineNode) : (b.attach node).depth = b.depth := by
  obtain ⟨roots, opened, depth, mark⟩ := b
  cases opened <;> rfl

lemma mark_attach (node : OutlineNode) : (b.attach node).mark = b.mark := by
  obtain ⟨roots, opened, depth, mark⟩ := b
  cases opened <;> rfl

/-- To end the innermost open function where it was expected to end moves nothing. -/
lemma placements_finish {f : OpenFunction → Nat} (hf : ∀ o ∈ b.opened.head?, f o = stop o.start) :
    (b.finish f).placements stop = b.placements stop := by
  obtain ⟨roots, opened, depth, mark⟩ := b
  cases opened with
  | nil => rfl
  | cons o os =>
    rw [finish, placements_attach, OutlineNode.placements, hf o rfl]
    simp only [placements, openPlacements, List.append_assoc]

/-- A declaration comes last, whether it opens a function or not. -/
lemma placements_declare (line : Nat) (hasBody : Bool) (entry : Entry) :
    (b.declare line hasBody entry).placements stop =
      b.placements stop ++
        [⟨innermost? b.opened, entry, line,
          if entry.kind = .function ∧ hasBody = false then stop line else line⟩] := by
  unfold declare
  by_cases hopens : entry.kind = .function ∧ hasBody = false
  · rw [if_pos hopens, if_pos hopens]
    simp [placements, openPlacements, OutlineNode.placementsOf]
  · rw [if_neg hopens, if_neg hopens, placements_attach]
    simp [OutlineNode.placements, OutlineNode.placementsOf]

/-- Applying a closing brace moves nothing, if a function that it ends was expected to end there. -/
lemma placements_closeBrace {line : Nat}
    (hstop : ∀ o ∈ b.opened.head?, o.depth = b.depth - 1 → stop o.start = line) :
    (b.closeBrace line).placements stop = b.placements stop := by
  obtain ⟨roots, opened, depth, mark⟩ := b
  cases opened with
  | nil => rfl
  | cons o os =>
    simp only [closeBrace]
    split
    · rename_i hdepth
      refine placements_finish stop _ ?_
      rintro o' ⟨⟩
      exact (hstop o rfl hdepth).symm
    · rfl

/-- The outline after the declaration on a line, before the braces of the line. -/
def declareOn (number : Nat) (line : List Char) : Builder :=
  let scrubbed := scrubLine line
  let hasBody := scrubbed.contains '{' && (dropBlocks scrubbed).count '{' == 0
  match entryOn ((attributeOn scrubbed).or b.mark) (String.ofList line) with
  | some entry => b.declare number hasBody entry
  | none => b

/-- A line makes its declaration first, then its closing braces are applied, and then its opening
ones. -/
lemma step_eq (number : Nat) (line : List Char) :
    ∃ mark, b.step number line =
      let braces := dropBlocks (scrubLine line)
      let closed := (b.declareOn number line).closeBraces number (braces.count '}')
      { closed with depth := closed.depth + braces.count '{', mark } :=
  ⟨_, rfl⟩

/-- Takes lines into the outline, the first of which has the given number. -/
def run (number : Nat) (ls : List (List Char)) : Builder :=
  (ls.zipIdx number).foldl (fun b (line, number) => b.step number line) b

lemma run_cons (number : Nat) (line : List Char) (rest : List (List Char)) :
    b.run number (line :: rest) = (b.step number line).run (number + 1) rest := rfl

lemma run_append (number : Nat) (front rest : List (List Char)) :
    b.run number (front ++ rest) = (b.run number front).run (number + front.length) rest := by
  rw [run, List.zipIdx_append, List.foldl_append]
  rfl

/-! ## The end of the text -/

lemma length_opened_attach (node : OutlineNode) :
    (b.attach node).opened.length = b.opened.length := by
  obtain ⟨roots, opened, depth, mark⟩ := b
  cases opened <;> rfl

lemma length_opened_finish (f : OpenFunction → Nat) :
    (b.finish f).opened.length = b.opened.length - 1 := by
  obtain ⟨roots, opened, depth, mark⟩ := b
  cases opened with
  | nil => rfl
  | cons o os =>
    rw [finish, length_opened_attach]
    rfl

lemma opened_finishAll {count : Nat} (hcount : b.opened.length ≤ count) :
    (b.finishAll count).opened = [] := by
  induction count generalizing b with
  | zero => exact List.length_eq_zero_iff.mp (Nat.le_zero.mp hcount)
  | succ count ih =>
    rw [finishAll]
    exact ih _ (by rw [length_opened_finish]; omega)

lemma placements_of_opened_eq_nil (h : b.opened = []) :
    b.placements stop = Outline.placements b.roots.reverse := by
  rw [placements, h, openPlacements, List.append_nil]

end Builder

/-! ## Names, kinds and lines -/

/-- What a declaration is called, what it is, and the line where it starts. -/
structure Heading where
  name : String
  kind : OutlineKind
  line : Nat
deriving DecidableEq, Repr

/-- The heading of a node. -/
def Placement.heading (p : Placement) : Heading :=
  ⟨p.entry.name, p.entry.kind, p.start⟩

/-- What a line declares: the function on it or, when there is none, the variable. -/
def headingOn (number : Nat) (line : List Char) : Option Heading :=
  match FunctionLine.find? (String.ofList line) with
  | some f => some ⟨f.name, .function, number⟩
  | none =>
    (VariableLine.find? (String.ofList line)).map fun v =>
      ⟨v.name, if v.isConstant then .constant else .binding, number⟩

/-- What the lines of a text declare, in the order of the lines. -/
def headings (text : String) : List Heading :=
  (lines text.toList).zipIdx.filterMap fun (line, number) => headingOn number line

lemma heading_entryOn (mark : Option String) (number : Nat) (line : List Char) :
    (entryOn mark (String.ofList line)).map (fun entry => ⟨entry.name, entry.kind, number⟩) =
      headingOn number line := by
  unfold entryOn headingOn
  cases FunctionLine.find? (String.ofList line) with
  | some f => rfl
  | none => cases VariableLine.find? (String.ofList line) <;> rfl

lemma map_heading_openPlacements (stop stop' : Nat → Nat) (opened : List OpenFunction) :
    (openPlacements stop opened).map Placement.heading =
      (openPlacements stop' opened).map Placement.heading := by
  induction opened with
  | nil => rfl
  | cons o os ih =>
    rw [openPlacements, openPlacements, List.map_append, List.map_append, ih]
    rfl

namespace Builder

variable (b : Builder)

/-- The headings of the outline so far in preorder. -/
def headings : List Heading :=
  (b.placements id).map Placement.heading

lemma map_heading_placements (stop : Nat → Nat) :
    (b.placements stop).map Placement.heading = b.headings := by
  rw [headings, placements, placements, List.map_append, List.map_append,
    map_heading_openPlacements stop id]

lemma headings_closeBrace (line : Nat) : (b.closeBrace line).headings = b.headings := by
  rw [← map_heading_placements _ fun _ => line, placements_closeBrace _ _ fun _ _ _ => rfl,
    map_heading_placements]

lemma headings_closeBraces (line count : Nat) :
    (b.closeBraces line count).headings = b.headings := by
  induction count generalizing b with
  | zero => rfl
  | succ count ih => rw [closeBraces, ih, headings_closeBrace]

lemma headings_declare (line : Nat) (hasBody : Bool) (entry : Entry) :
    (b.declare line hasBody entry).headings = b.headings ++ [⟨entry.name, entry.kind, line⟩] := by
  rw [headings, placements_declare, List.map_append]
  rfl

lemma headings_declareOn (number : Nat) (line : List Char) :
    (b.declareOn number line).headings = b.headings ++ (headingOn number line).toList := by
  rw [← heading_entryOn ((attributeOn (scrubLine line)).or b.mark) number line]
  simp only [declareOn]
  cases entryOn ((attributeOn (scrubLine line)).or b.mark) (String.ofList line) with
  | none => exact (List.append_nil _).symm
  | some entry => exact b.headings_declare number _ entry

/-- **A line adds what it declares**, and braces change no headings. -/
lemma headings_step (number : Nat) (line : List Char) :
    (b.step number line).headings = b.headings ++ (headingOn number line).toList := by
  obtain ⟨mark, hstep⟩ := b.step_eq number line
  rw [hstep, ← headings_declareOn]
  exact headings_closeBraces _ number _

lemma headings_foldl_step (ls : List (List Char)) (number : Nat) :
    ((ls.zipIdx number).foldl (fun b (line, number) => b.step number line) b).headings =
      b.headings ++ (ls.zipIdx number).filterMap fun (line, number) => headingOn number line := by
  induction ls generalizing number b with
  | nil => exact (List.append_nil _).symm
  | cons line ls ih =>
    rw [List.zipIdx_cons, List.foldl_cons, ih, headings_step, List.append_assoc]
    cases hheading : headingOn number line with
    | none => simp [hheading]
    | some heading => simp [hheading]

lemma placements_finishAll (count : Nat) :
    (b.finishAll count).placements id = b.placements id := by
  induction count generalizing b with
  | zero => rfl
  | succ count ih =>
    rw [finishAll, ih]
    exact b.placements_finish id fun _ _ => rfl

end Builder

/-- The outline under way after all the lines of a text. -/
def built (text : String) : Builder :=
  (lines text.toList).zipIdx.foldl (fun b (line, number) => b.step number line) Builder.empty

/-- The nodes of a finished outline are those of the outline under way, where a function that is
still open ends on the line it starts on. -/
lemma placements_build (text : String) : placements (build text) = (built text).placements id := by
  have hclosed := Builder.opened_finishAll (built text) (Nat.le_refl _)
  rw [← Builder.placements_finishAll _ (built text).opened.length,
    Builder.placements_of_opened_eq_nil _ _ hclosed]
  rfl

/-- The headings of an outline in preorder are those of the lines. -/
lemma headings_build (text : String) :
    (placements (build text)).map Placement.heading = headings text := by
  have hempty : Builder.empty.headings = [] := rfl
  rw [placements_build]
  change (built text).headings = headings text
  rw [built, Builder.headings_foldl_step, hempty, List.nil_append]
  rfl

lemma pairwise_line_headings (text : String) :
    ((headings text).map (·.line)).Pairwise (· < ·) := by
  have hline : ∀ number line heading, headingOn number line = some heading →
      heading.line = number := by
    intro number line heading h
    rw [← heading_entryOn none, Option.map_eq_some_iff] at h
    obtain ⟨entry, -, rfl⟩ := h
    rfl
  have hnumbers : ((lines text.toList).zipIdx.map (·.2)).Pairwise (· < ·) := by
    rw [List.zipIdx_map_snd]
    exact List.pairwise_lt_range'
  rw [headings, List.pairwise_map, List.pairwise_filterMap]
  refine (List.pairwise_map.mp hnumbers).imp ?_
  rintro ⟨line, number⟩ ⟨line', number'⟩ hlt heading hheading heading' hheading'
  rw [hline number line heading hheading, hline number' line' heading' hheading']
  exact hlt

/-- **The outline loses, duplicates and reorders nothing.**  In preorder it holds exactly one node
for each line that declares a function or, when there is none on it, a variable, with its name, its
kind and its line, in the order of the lines.  In particular lines increase strictly in preorder,
whatever the braces look like. -/
theorem preorder_build (text : String) :
    (placements (build text)).map Placement.heading = headings text ∧
      ((placements (build text)).map (·.start)).Pairwise (· < ·) := by
  have hheadings := headings_build text
  refine ⟨hheadings, ?_⟩
  have hstart : (placements (build text)).map (·.start) = (headings text).map (·.line) := by
    rw [← hheadings, List.map_map]
    rfl
  rw [hstart]
  exact pairwise_line_headings text

end Outline

end LanguageServer
