import LanguageServer.Proofs.Source.Header
import LanguageServer.Proofs.Source.Outline

/-!
# The outline follows the nesting of braces

The builder of an outline keeps a stack of open functions and compares depths for equality.  On
regular lines this comes to the same as the description of open functions by the braces of the whole
text (`build_follows_nesting`).

Depths on the stack increase strictly from function to function and stay below the depth of the line
(`Builder.Descends`), so a closing brace cannot step past the depth of an open function, and the
functions that a line closes are those above a certain depth (`Builder.stack_closeBraces`).
`Follows` is what holds before every line; `Follows.step` says that a line keeps it, and
`follows_underWay` that it holds throughout the text.
-/

namespace LanguageServer.Outline

open Text Source

variable {ls : List (List Char)} {number header : Nat}

/-! ## The stack of a builder -/

namespace Builder

variable (b : Builder)

/-- The lines and depths of the open functions, the innermost first. -/
def stack : List (Nat × Int) :=
  b.opened.map fun o => (o.start, o.depth)

lemma innermost?_opened : innermost? b.opened = b.stack.head?.map (·.1) := by
  rw [innermost?, stack, List.head?_map, Option.map_map]
  rfl

lemma stack_attach (node : OutlineNode) : (b.attach node).stack = b.stack := by
  obtain ⟨roots, opened, depth, mark⟩ := b
  cases opened <;> rfl

lemma stack_finish (f : OpenFunction → Nat) : (b.finish f).stack = b.stack.tail := by
  obtain ⟨roots, opened, depth, mark⟩ := b
  cases opened with
  | nil => rfl
  | cons o os =>
    rw [finish, stack_attach]
    rfl

lemma depth_finish (f : OpenFunction → Nat) : (b.finish f).depth = b.depth := by
  obtain ⟨roots, opened, depth, mark⟩ := b
  cases opened with
  | nil => rfl
  | cons o os => rw [finish, depth_attach]

lemma depth_closeBrace (line : Nat) : (b.closeBrace line).depth = b.depth - 1 := by
  obtain ⟨roots, opened, depth, mark⟩ := b
  cases opened with
  | nil => rfl
  | cons o os =>
    simp only [closeBrace]
    split
    · rw [depth_finish]
    · rfl

/-- Depths below the given one that decrease strictly outwards. -/
def Descends (depth : Int) (stack : List (Nat × Int)) : Prop :=
  (depth :: stack.map (·.2)).Pairwise (· > ·)

lemma Descends.filter {depth : Int} {stack : List (Nat × Int)} (h : Descends depth stack)
    (bound : Int) : Descends bound (stack.filter (·.2 < bound)) := by
  rw [Descends, List.pairwise_cons] at h ⊢
  constructor
  · intro d hd
    obtain ⟨entry, hentry, rfl⟩ := List.mem_map.mp hd
    simpa using (List.mem_filter.mp hentry).2
  · exact h.2.sublist (List.filter_sublist.map _)

lemma stack_closeBrace_eq (line : Nat) :
    (b.closeBrace line).stack =
      if b.stack.head?.map (·.2) = some (b.depth - 1) then b.stack.tail else b.stack := by
  obtain ⟨roots, opened, depth, mark⟩ := b
  cases opened with
  | nil => rfl
  | cons o os =>
    by_cases hreached : o.depth = depth - 1
    · have hends : closeBrace line ⟨roots, o :: os, depth, mark⟩ =
          finish (fun _ => line) ⟨roots, o :: os, depth - 1, mark⟩ := if_pos hreached
      rw [hends, stack_finish, if_pos (by simp [stack, hreached])]
      rfl
    · have hstays : closeBrace line ⟨roots, o :: os, depth, mark⟩ =
          ⟨roots, o :: os, depth - 1, mark⟩ := if_neg hreached
      rw [hstays, if_neg (by simp [stack, hreached])]
      rfl

/-- A closing brace ends the functions that were opened at the depth it leads to or deeper.  As
depths decrease strictly, this is the innermost function or none. -/
lemma stack_closeBrace (line : Nat) (hdepths : Descends b.depth b.stack) :
    (b.closeBrace line).stack = b.stack.filter (·.2 < b.depth - 1) := by
  rw [stack_closeBrace_eq]
  generalize b.stack = stack at hdepths
  cases stack with
  | nil => rfl
  | cons top rest =>
    simp only [Descends, List.map_cons, List.pairwise_cons, List.mem_cons, forall_eq_or_imp,
      List.mem_map, forall_exists_index, and_imp, forall_apply_eq_imp_iff₂] at hdepths
    obtain ⟨⟨htop, -⟩, hrest, -⟩ := hdepths
    by_cases hreached : top.2 = b.depth - 1
    · have hkept : ∀ entry ∈ rest, decide (entry.2 < b.depth - 1) = true := by
        intro entry hentry
        have := hrest entry hentry
        rw [decide_eq_true_eq]
        omega
      rw [if_pos (by simp [hreached]), List.filter_cons_of_neg (by simp [hreached]), List.tail_cons,
        List.filter_eq_self.mpr hkept]
    · have hkept : ∀ entry ∈ top :: rest, decide (entry.2 < b.depth - 1) = true := by
        intro entry hentry
        rw [decide_eq_true_eq]
        rcases List.mem_cons.mp hentry with rfl | hentry
        · omega
        · have := hrest entry hentry
          omega
      rw [if_neg (by simp [hreached]), List.filter_eq_self.mpr hkept]

lemma depth_closeBraces (line count : Nat) :
    (b.closeBraces line count).depth = b.depth - count := by
  induction count generalizing b with
  | zero => simp [closeBraces]
  | succ count ih =>
    rw [closeBraces, ih, depth_closeBrace]
    omega

lemma stack_closeBraces (line count : Nat) (hdepths : Descends b.depth b.stack) :
    (b.closeBraces line count).stack = b.stack.filter (·.2 < b.depth - count) := by
  induction count generalizing b with
  | zero =>
    have hbelow := (List.pairwise_cons.mp hdepths).1
    refine (List.filter_eq_self.mpr fun entry hentry => ?_).symm
    simpa using hbelow _ (List.mem_map_of_mem hentry)
  | succ count ih =>
    have hstack := b.stack_closeBrace line hdepths
    have hdepths' : Descends (b.closeBrace line).depth (b.closeBrace line).stack := by
      rw [depth_closeBrace, hstack]
      exact hdepths.filter _
    rw [closeBraces, ih _ hdepths', hstack, depth_closeBrace, List.filter_filter]
    refine List.filter_congr fun entry _ => ?_
    rw [← Bool.decide_and, decide_eq_decide]
    omega

lemma stack_closeBrace_suffix (line : Nat) : (b.closeBrace line).stack <:+ b.stack := by
  rw [stack_closeBrace_eq]
  split
  · exact List.tail_suffix _
  · exact List.suffix_rfl

lemma stack_closeBraces_suffix (line count : Nat) :
    (b.closeBraces line count).stack <:+ b.stack := by
  induction count generalizing b with
  | zero => exact List.suffix_rfl
  | succ count ih => exact (ih _).trans (b.stack_closeBrace_suffix line)

/-- The function on top leaves the stack when a closing brace comes down to its depth. -/
lemma notMem_stack_closeBraces {top : Nat × Int} {rest : List (Nat × Int)}
    (hstack : b.stack = top :: rest) (hnodup : b.stack.Nodup) (hreached : top.2 = b.depth - 1)
    (line count : Nat) : top ∉ (b.closeBraces line (count + 1)).stack := by
  intro hmem
  have hin := (stack_closeBraces_suffix _ line count).subset hmem
  rw [stack_closeBrace_eq, hstack, if_pos (by simp [hreached]), List.tail_cons] at hin
  rw [hstack] at hnodup
  exact (List.nodup_cons.mp hnodup).1 hin

/-- Closing braces move nothing, if the functions that leave the stack were expected to end
there. -/
lemma placements_closeBraces_of_notMem {stop : Nat → Nat} {line count : Nat}
    (hnodup : b.stack.Nodup)
    (hstop : ∀ entry ∈ b.stack, entry ∉ (b.closeBraces line count).stack → stop entry.1 = line) :
    (b.closeBraces line count).placements stop = b.placements stop := by
  induction count generalizing b with
  | zero => rfl
  | succ count ih =>
    have hsuffix := b.stack_closeBrace_suffix line
    rw [closeBraces, ih, placements_closeBrace]
    · intro o ho hreached
      have hhead : b.stack.head? = some (o.start, o.depth) := by
        rw [stack, List.head?_map, Option.mem_def.mp ho, Option.map_some]
      obtain ⟨rest, hrest⟩ := List.head?_eq_some_iff.mp hhead
      exact hstop (o.start, o.depth) (List.mem_of_mem_head? hhead)
        (b.notMem_stack_closeBraces hrest hnodup hreached line count)
    · exact hnodup.sublist hsuffix.sublist
    · exact fun entry hentry hgone => hstop entry (hsuffix.subset hentry) hgone

/-- Where depths decrease, these are the functions that were opened at the depth that the braces
lead to or deeper. -/
lemma placements_closeBraces {stop : Nat → Nat} {line count : Nat}
    (hdepths : Descends b.depth b.stack)
    (hstop : ∀ entry ∈ b.stack, b.depth - count ≤ entry.2 → stop entry.1 = line) :
    (b.closeBraces line count).placements stop = b.placements stop := by
  have hnodup : b.stack.Nodup :=
    (List.pairwise_map.mp (List.pairwise_cons.mp hdepths).2).imp fun hlt heq =>
      absurd hlt (by rw [heq]; exact Int.lt_irrefl _)
  refine b.placements_closeBraces_of_notMem hnodup fun entry hentry hgone => hstop entry hentry ?_
  rw [b.stack_closeBraces line count hdepths] at hgone
  simpa [hentry] using hgone

lemma stack_declare (line : Nat) (hasBody : Bool) (entry : Entry) :
    (b.declare line hasBody entry).stack =
      if entry.kind = .function ∧ hasBody = false then (line, b.depth) :: b.stack else b.stack := by
  unfold declare
  by_cases hopens : entry.kind = .function ∧ hasBody = false
  · rw [if_pos hopens, if_pos hopens]
    rfl
  · rw [if_neg hopens, if_neg hopens, stack_attach]

lemma depth_declare (line : Nat) (hasBody : Bool) (entry : Entry) :
    (b.declare line hasBody entry).depth = b.depth := by
  unfold declare
  split
  · rfl
  · rw [depth_attach]

end Builder

/-! ## What holds before every line -/

variable (ls)

/-- The node stands in the function of the last header that is open before its line, and it ends
where the function of its header ends, or else on its own line. -/
structure Placement.Sits (p : Placement) : Prop where
  parent : p.parent = parentLine? ls p.start
  stop : p.stop = if isHeader ls p.start = true then stopLine ls p.start else p.start

/-- The outline under way before a line: its depth, its open functions, and everything in it where
it belongs. -/
structure Follows (number : Nat) (b : Builder) : Prop where
  depth : b.depth = depthBefore ls number
  stack : b.stack = (openHeaders ls number).map fun header => (header, depthBefore ls header)
  sits : ∀ p ∈ b.placements (stopLine ls), p.Sits ls

variable {ls} {b : Builder}

lemma Follows.descends (h : Follows ls number b) (hregular : ∀ line ∈ ls, Regular line)
    (hnumber : number ≤ ls.length) : Builder.Descends b.depth b.stack := by
  rw [h.depth, h.stack, Builder.Descends, List.map_map]
  exact pairwise_depthBefore hregular hnumber

lemma Follows.innermost? (h : Follows ls number b) :
    innermost? b.opened = parentLine? ls number := by
  rw [Builder.innermost?_opened, h.stack, parentLine?_eq, List.head?_map, Option.map_map]
  exact Option.map_id'

/-! ## One line -/

/-- Does the line declare a function whose body does not lie within the line? -/
def opensFunction (line : List Char) : Bool :=
  (FunctionLine.find? (String.ofList line)).isSome &&
    !((scrubLine line).contains '{' && (unpaired (scrubLine line)).opening == 0)

/-- The entry of a line becomes an open function exactly when the line opens one. -/
lemma opens_iff {line : List Char} {mark : Option String} {entry : Entry}
    (hentry : entryOn mark (String.ofList line) = some entry) :
    (entry.kind = .function ∧
        ((scrubLine line).contains '{' && (dropBlocks (scrubLine line)).count '{' == 0) = false) ↔
      opensFunction line = true := by
  rw [(count_dropBlocks _).2, opensFunction]
  unfold entryOn at hentry
  cases hfunction : FunctionLine.find? (String.ofList line) with
  | none =>
    rw [hfunction] at hentry
    obtain ⟨v, -, rfl⟩ := Option.map_eq_some_iff.mp hentry
    simp only [Option.isSome_none, Bool.false_and, Bool.false_eq_true, iff_false, not_and]
    split <;> simp
  | some f =>
    rw [hfunction] at hentry
    cases hentry
    simp [imp_iff_not_or]

lemma opensFunction_eq_isHeader (hregular : Regular (ls.getD number [])) :
    opensFunction (ls.getD number []) = isHeader ls number := by
  rw [opensFunction, isHeader, bracesOn]
  generalize ls.getD number [] = line at hregular ⊢
  cases hfunction : FunctionLine.find? (String.ofList line) with
  | none => rfl
  | some f =>
    rcases hregular (by rw [hfunction]; rfl) with ⟨hbrace, hnone⟩ | ⟨hopening, -⟩
    · simp [hbrace, hnone]
    · have hne : (unpaired (scrubLine line)).opening ≠ 0 := by omega
      simp [hopening, hne]

lemma stack_declareOn (b : Builder) (number : Nat) (line : List Char) :
    (b.declareOn number line).stack =
      if opensFunction line = true then (number, b.depth) :: b.stack else b.stack := by
  simp only [Builder.declareOn]
  split
  · rename_i entry hentry
    rw [Builder.stack_declare]
    exact if_congr (opens_iff hentry) rfl rfl
  · rename_i hentry
    rw [if_neg]
    -- A line that opens a function declares it.
    intro hopens
    rw [opensFunction, Bool.and_eq_true] at hopens
    obtain ⟨f, hf⟩ := Option.isSome_iff_exists.mp hopens.1
    rw [entryOn, hf] at hentry
    cases hentry

lemma depth_declareOn (b : Builder) (number : Nat) (line : List Char) :
    (b.declareOn number line).depth = b.depth := by
  simp only [Builder.declareOn]
  split
  · rw [Builder.depth_declare]
  · rfl

namespace Builder

variable (b : Builder)

/-- A line makes its declaration, applies the closing braces that are left of it, then the opening
ones. -/
lemma step_eq_unpaired (number : Nat) (line : List Char) :
    ∃ mark, b.step number line =
      let closed := (b.declareOn number line).closeBraces number (unpaired (scrubLine line)).closing
      { closed with depth := closed.depth + (unpaired (scrubLine line)).opening, mark } := by
  obtain ⟨mark, hstep⟩ := b.step_eq number line
  obtain ⟨hclosing, hopening⟩ := count_dropBlocks (scrubLine line)
  simp only [hclosing, hopening] at hstep
  exact ⟨mark, hstep⟩

lemma depth_step (number : Nat) (line : List Char) :
    (b.step number line).depth =
      b.depth - (unpaired (scrubLine line)).closing + (unpaired (scrubLine line)).opening := by
  obtain ⟨mark, hstep⟩ := b.step_eq_unpaired number line
  simp only [hstep, depth_closeBraces, depth_declareOn]

end Builder

lemma Follows.sits_declareOn (h : Follows ls number b) (hregular : Regular (ls.getD number [])) :
    ∀ p ∈ (b.declareOn number (ls.getD number [])).placements (stopLine ls), p.Sits ls := by
  simp only [Builder.declareOn]
  split
  · rename_i entry hentry
    intro p hp
    rw [Builder.placements_declare, List.mem_append, List.mem_singleton] at hp
    rcases hp with hp | rfl
    · exact h.sits p hp
    · have hopens := opens_iff hentry
      rw [opensFunction_eq_isHeader hregular] at hopens
      exact ⟨h.innermost?, if_congr hopens rfl rfl⟩
  · exact h.sits

/-- The open headers that do not end on the line, as they stand on the stack. -/
lemma Follows.filter_stack (h : Follows ls number b) :
    b.stack.filter (·.2 < b.depth - (bracesOn ls number).closing) =
      ((openHeaders ls number).filter fun header => !endsOn ls header number).map
        fun header => (header, depthBefore ls header) := by
  rw [h.stack, List.filter_map, h.depth]
  congr 1
  refine List.filter_congr fun header _ => ?_
  rw [Function.comp_apply, endsOn, ← decide_not, decide_eq_decide, Int.not_le]

/-- The closing braces of a line end the headers that end on it. -/
lemma Follows.closeBraces (h : Follows ls number b) (hregular : ∀ line ∈ ls, Regular line)
    (hnumber : number < ls.length) :
    let closed := (b.declareOn number (ls.getD number [])).closeBraces number
      (bracesOn ls number).closing
    closed.stack =
        (openHeaders ls (number + 1)).map (fun header => (header, depthBefore ls header)) ∧
      ∀ p ∈ closed.placements (stopLine ls), p.Sits ls := by
  have hline : Regular (ls.getD number []) := by
    rw [List.getD_eq_getElem ls [] hnumber]
    exact hregular _ (List.getElem_mem hnumber)
  have hdescends := h.descends hregular (Nat.le_of_lt hnumber)
  have hstack := stack_declareOn b number (ls.getD number [])
  rw [opensFunction_eq_isHeader hline] at hstack
  have hsits := h.sits_declareOn hline
  rw [openHeaders_succ, List.map_append, ← h.filter_stack]
  by_cases hheader : isHeader ls number = true
  · -- A header closes nothing, and what was open before it stays open.
    have hclosing := closing_of_isHeader hregular hnumber hheader
    rw [if_pos hheader] at hstack ⊢
    rw [hclosing]
    refine ⟨?_, hsits⟩
    have hbelow := (List.pairwise_cons.mp hdescends).1
    have hkept : b.stack.filter (·.2 < b.depth - (0 : Nat)) = b.stack := by
      refine List.filter_eq_self.mpr fun entry hentry => ?_
      simpa using hbelow _ (List.mem_map_of_mem hentry)
    rw [hkept, Builder.closeBraces, hstack, h.depth]
    rfl
  · rw [if_neg hheader] at hstack ⊢
    generalize hdeclared : b.declareOn number (ls.getD number []) = declared at hstack hsits
    have hdepth : declared.depth = b.depth := by rw [← hdeclared, depth_declareOn]
    rw [← hstack, ← hdepth] at hdescends
    refine ⟨?_, ?_⟩
    · rw [Builder.stack_closeBraces _ _ _ hdescends, hstack, hdepth]
      rfl
    · rw [Builder.placements_closeBraces _ hdescends]
      · exact hsits
      · intro entry hentry hends
        rw [hstack, h.stack] at hentry
        obtain ⟨header, hopen, rfl⟩ := List.mem_map.mp hentry
        rw [hdepth, h.depth] at hends
        exact stopLine_of_endsOn hnumber hopen (by simpa [endsOn] using hends)

/-- **A line keeps the outline with its nesting.** -/
lemma Follows.step (h : Follows ls number b) (hregular : ∀ line ∈ ls, Regular line)
    (hnumber : number < ls.length) :
    Follows ls (number + 1) (b.step number (ls.getD number [])) := by
  obtain ⟨hstack, hsits⟩ := h.closeBraces hregular hnumber
  have hdepth := b.depth_step number (ls.getD number [])
  obtain ⟨mark, hstep⟩ := b.step_eq_unpaired number (ls.getD number [])
  rw [h.depth] at hdepth
  rw [hstep] at hdepth ⊢
  exact ⟨hdepth.trans (depthBefore_succ hnumber).symm, hstack, hsits⟩

/-! ## A whole text -/

lemma follows_empty : Follows ls 0 Builder.empty where
  depth := rfl
  stack := rfl
  sits := by simp [Builder.placements, Builder.empty, placements, openPlacements,
    OutlineNode.placementsOf]

variable (ls) in
/-- The outline under way before the line of the given number. -/
def underWay (number : Nat) : Builder :=
  Builder.empty.run 0 (ls.take number)

lemma underWay_succ (hnumber : number < ls.length) :
    underWay ls (number + 1) = (underWay ls number).step number (ls.getD number []) := by
  have hlength : (ls.take number).length = number := by
    rw [List.length_take]
    omega
  rw [underWay, List.take_succ_eq_append_getElem hnumber, Builder.run_append, hlength, Nat.zero_add,
    List.getD_eq_getElem ls [] hnumber]
  rfl

lemma underWay_length (text : String) :
    underWay (lines text.toList) (lines text.toList).length = built text := by
  rw [underWay, List.take_length]
  rfl

/-- **Before every line** the outline agrees with the nesting of the lines. -/
lemma follows_underWay (hregular : ∀ line ∈ ls, Regular line) (hnumber : number ≤ ls.length) :
    Follows ls number (underWay ls number) := by
  induction number with
  | zero => exact follows_empty
  | succ number ih =>
    rw [underWay_succ (by omega)]
    exact (ih (by omega)).step hregular (by omega)

lemma openPlacements_congr {stop stop' : Nat → Nat} {opened : List OpenFunction}
    (h : ∀ o ∈ opened, stop o.start = stop' o.start) :
    openPlacements stop opened = openPlacements stop' opened := by
  induction opened with
  | nil => rfl
  | cons o os ih =>
    rw [openPlacements, openPlacements, h o List.mem_cons_self,
      ih fun outer houter => h outer (List.mem_cons_of_mem o houter)]

lemma follows_built (text : String) (hregular : ∀ line ∈ lines text.toList, Regular line) :
    Follows (lines text.toList) (lines text.toList).length (built text) := by
  rw [← underWay_length]
  exact follows_underWay hregular (Nat.le_refl _)

/-- The functions that are open at the end are those whose headers end nowhere. -/
lemma placements_built {text : String} (hregular : ∀ line ∈ lines text.toList, Regular line) :
    (built text).placements (stopLine (lines text.toList)) = (built text).placements id := by
  have hstack := (follows_built text hregular).stack
  rw [Builder.placements, Builder.placements, openPlacements_congr]
  intro o ho
  have hmem : (o.start, o.depth) ∈ (built text).stack :=
    List.mem_map_of_mem (f := fun o => (o.start, o.depth)) ho
  rw [hstack] at hmem
  obtain ⟨header, hopen, hentry⟩ := List.mem_map.mp hmem
  obtain ⟨rfl, -⟩ := Prod.mk.inj hentry
  exact stopLine_of_isOpen hopen

/-- **The outline follows the nesting of braces**, for every text with regular lines.  It has one
node for each declaration.  The node stands in the function of the last header before it that has
not ended before its line, and is a root when there is none.  The function of a header ends on the
first line after it whose closing braces bring the depth down to what it was before the header, and
on the header itself when there is none; every other node ends on its own line. -/
theorem build_follows_nesting (text : String)
    (hregular : ∀ line ∈ lines text.toList, Regular line) :
    let ls := lines text.toList
    (placements (build text)).map Placement.heading = headings text ∧
      ∀ p ∈ placements (build text),
        p.parent = parentLine? ls p.start ∧
          p.stop = if isHeader ls p.start = true then stopLine ls p.start else p.start := by
  intro ls
  refine ⟨headings_build text, ?_⟩
  intro p hp
  rw [placements_build, ← placements_built hregular] at hp
  have hsits := (follows_built text hregular).sits p hp
  exact ⟨hsits.parent, hsits.stop⟩

/-- A closing brace too many at the beginning, a function on one line and one that is closed
together with the function around it, a line that closes a block and opens another, a brace in a
literal, and a function that is never closed. -/
theorem build_follows_nesting_mixed :
    let text := "\x7d\nfn outer(a) \x7b\n  fn inner() \x7b 1 \x7d\n  if a \x7b\n    let X = 1\n" ++
      "  \x7d else \x7b let y = \"\x7d\" \x7d\n  fn deep() \x7b\n  \x7d \x7d\nfn last() \x7b\nlet z"
    (∀ line ∈ lines text.toList, Regular line) ∧
      (placements (build text)).map (fun p => (p.parent, p.entry.name, p.start, p.stop)) =
        [(none, "outer", 1, 7), (some 1, "inner", 2, 2), (some 1, "X", 4, 4), (some 1, "y", 5, 5),
          (some 1, "deep", 6, 7), (none, "last", 8, 8), (some 8, "z", 9, 9)] := by
  intro text
  have hregular : ∀ line ∈ lines text.toList, Regular line := by decide +kernel
  obtain ⟨hheadings, hplaces⟩ := build_follows_nesting text hregular
  refine ⟨hregular, ?_⟩
  let ls := lines text.toList
  let place (heading : Heading) : Option Nat × String × Nat × Nat :=
    (parentLine? ls heading.line, heading.name, heading.line,
      if isHeader ls heading.line = true then stopLine ls heading.line else heading.line)
  calc
    (placements (build text)).map (fun p => (p.parent, p.entry.name, p.start, p.stop)) =
        (placements (build text)).map (fun p => place p.heading) := by
      refine List.map_congr_left fun p hp => ?_
      obtain ⟨hparent, hstop⟩ := hplaces p hp
      rw [hparent, hstop]
      rfl
    _ = (headings text).map place := by
      rw [← hheadings, List.map_map]
      rfl
    _ = _ := by decide +kernel

end LanguageServer.Outline
