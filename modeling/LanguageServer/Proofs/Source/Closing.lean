import LanguageServer.Proofs.Source.Nesting

/-!
# When an open function is closed

A function stays open until a closing brace brings the depth down to where the function was opened.
The builder of an outline looks at the innermost open function only, compares depths for equality,
and takes in the declaration of a line before the braces of the line.  This file says what follows
from that, for lines that need not be regular.

The closing braces of a line therefore close a function exactly when they come down to the depths of
all the functions further in, one after the other, and then to the depth of the function
(`Builder.mem_stack_closeBraces`).  They do not when two of these functions were opened at the same
depth, nor when the line itself opens a function, which is then the innermost one
(`Builder.stack_step_of_opensFunction`).  A function that is declared behind the braces belongs to
the innermost function that was open before the line, even where the braces close that one.

`openLines` are the functions that are open before a line, and `closingLine` is the line on which a
function is closed.  A node gets its place when it is declared, with its function open or not, and
keeps it to the end of the text (`mem_placements_build`); so what is said about the stack is said
about the outline (`closed_on_line_iff`).
-/

namespace LanguageServer.Outline

open Text Source

/-! ## What closing braces leave on the stack -/

namespace Builder

lemma descends_cons {depth : Int} {top : Nat × Int} {rest : List (Nat × Int)} :
    Descends depth (top :: rest) ↔ top.2 < depth ∧ Descends top.2 rest := by
  simp only [Descends, List.map_cons, List.pairwise_cons, List.mem_cons, forall_eq_or_imp]
  constructor
  · rintro ⟨⟨htop, -⟩, hrest⟩
    exact ⟨htop, hrest⟩
  · rintro ⟨htop, hbelow, hrest⟩
    exact ⟨⟨htop, fun depth hdepth => Int.lt_trans (hbelow depth hdepth) htop⟩, hbelow, hrest⟩

lemma descends_pred {depth : Int} {top : Nat × Int} (hne : top.2 ≠ depth - 1)
    (rest : List (Nat × Int)) :
    Descends (depth - 1) (top :: rest) ↔ Descends depth (top :: rest) := by
  have hlt : top.2 < depth - 1 ↔ top.2 < depth := by omega
  rw [descends_cons, descends_cons, hlt]

variable (b : Builder)

/-- **A function leaves the stack** when the closing braces pass its depth and the depths of the
functions above it on their way down, one after the other, and only then. -/
lemma mem_stack_closeBraces {above below : List (Nat × Int)} {entry : Nat × Int}
    (hstack : b.stack = above ++ entry :: below) (hnodup : b.stack.Nodup) (line count : Nat) :
    entry ∈ (b.closeBraces line count).stack ↔
      ¬ (Descends b.depth (above ++ [entry]) ∧ b.depth - count ≤ entry.2) := by
  induction count generalizing b above with
  | zero =>
    refine iff_of_true (by rw [closeBraces, hstack]; simp) ?_
    rintro ⟨hdescends, hle⟩
    have hlt := (List.pairwise_cons.mp hdescends).1 entry.2 (by simp)
    omega
  | succ count ih =>
    have hdepth := b.depth_closeBrace line
    have hclosed := b.stack_closeBrace_eq line
    have hnodup' := hnodup.sublist (b.stack_closeBrace_suffix line).sublist
    have hbelow : b.depth - 1 - count = b.depth - (count + 1 : Nat) := by omega
    cases above with
    | nil =>
      rw [hstack, List.nil_append, List.head?_cons, List.tail_cons] at hclosed
      by_cases hreached : entry.2 = b.depth - 1
      · -- The function itself is on top and goes.
        have hgone := b.notMem_stack_closeBraces hstack hnodup hreached line count
        refine iff_of_false hgone (not_not_intro ⟨?_, by omega⟩)
        rw [List.nil_append, descends_cons]
        exact ⟨by omega, List.pairwise_singleton _ _⟩
      · rw [if_neg (by simpa using hreached)] at hclosed
        rw [closeBraces, @ih (b.closeBrace line) [] hclosed hnodup', hdepth, hbelow,
          List.nil_append, descends_pred hreached]
    | cons top above =>
      rw [hstack, List.cons_append, List.head?_cons, List.tail_cons] at hclosed
      by_cases hreached : top.2 = b.depth - 1
      · rw [if_pos (by simp [hreached])] at hclosed
        rw [closeBraces, ih _ hclosed hnodup', hdepth, hbelow, List.cons_append, descends_cons,
          hreached]
        have hlt : b.depth - 1 < b.depth := by omega
        simp only [hlt, true_and]
      · rw [if_neg (by simpa using hreached)] at hclosed
        rw [closeBraces, @ih (b.closeBrace line) (top :: above) hclosed hnodup', hdepth, hbelow,
          List.cons_append, descends_pred hreached]

/-- Below a function that was opened at the depth of the line, nothing leaves the stack. -/
lemma stack_closeBraces_of_le {top : Nat × Int} {rest : List (Nat × Int)}
    (hstack : b.stack = top :: rest) (hle : b.depth ≤ top.2) (line count : Nat) :
    (b.closeBraces line count).stack = b.stack := by
  induction count generalizing b with
  | zero => rfl
  | succ count ih =>
    have hkept : (b.closeBrace line).stack = b.stack := by
      rw [stack_closeBrace_eq, hstack, List.head?_cons, Option.map_some, if_neg]
      rw [Option.some.injEq]
      omega
    rw [closeBraces, ih _ (hkept.trans hstack) (by rw [depth_closeBrace]; omega), hkept]

lemma stack_step (number : Nat) (line : List Char) :
    (b.step number line).stack =
      ((b.declareOn number line).closeBraces number (unpaired (scrubLine line)).closing).stack := by
  obtain ⟨mark, hstep⟩ := b.step_eq_unpaired number line
  rw [hstep]
  rfl

lemma stack_step_of_opensFunction {line : List Char} (hopens : opensFunction line = true)
    (number : Nat) : (b.step number line).stack = (number, b.depth) :: b.stack := by
  have hdeclared : (b.declareOn number line).stack = (number, b.depth) :: b.stack := by
    rw [stack_declareOn, if_pos hopens]
  have hle : (b.declareOn number line).depth ≤ b.depth :=
    Int.le_of_eq (depth_declareOn b number line)
  rw [stack_step, stack_closeBraces_of_le _ hdeclared hle, hdeclared]

/-- **What a line closes.**  An open function is left open by a line that opens another one, and by
any other line unless its closing braces come down to the function. -/
lemma mem_stack_step_iff {above below : List (Nat × Int)} {entry : Nat × Int}
    (hstack : b.stack = above ++ entry :: below) (hnodup : b.stack.Nodup) (number : Nat)
    (line : List Char) :
    entry ∈ (b.step number line).stack ↔
      opensFunction line = true ∨
        ¬ (Descends b.depth (above ++ [entry]) ∧
          b.depth - (unpaired (scrubLine line)).closing ≤ entry.2) := by
  by_cases hopens : opensFunction line = true
  · refine iff_of_true ?_ (Or.inl hopens)
    rw [b.stack_step_of_opensFunction hopens, hstack]
    simp
  · have hdeclared : (b.declareOn number line).stack = b.stack := by
      rw [stack_declareOn, if_neg hopens]
    rw [stack_step, mem_stack_closeBraces _ (hdeclared.trans hstack) (hdeclared ▸ hnodup),
      depth_declareOn, or_iff_right hopens]

lemma placements_step (stop : Nat → Nat) (number : Nat) (line : List Char) :
    (b.step number line).placements stop =
      ((b.declareOn number line).closeBraces number
        (unpaired (scrubLine line)).closing).placements stop := by
  obtain ⟨mark, hstep⟩ := b.step_eq_unpaired number line
  rw [hstep]
  rfl

end Builder

lemma exists_mem_openPlacements {o : OpenFunction} {opened : List OpenFunction} (h : o ∈ opened)
    (stop : Nat → Nat) :
    ∃ p ∈ openPlacements stop opened, p.start = o.start ∧ p.stop = stop o.start := by
  induction opened with
  | nil => cases h
  | cons top opened ih =>
    rw [openPlacements]
    rcases List.mem_cons.mp h with rfl | h
    · exact ⟨_, List.mem_append_right _ List.mem_cons_self, rfl, rfl⟩
    · obtain ⟨p, hp, hplace⟩ := ih h
      exact ⟨p, List.mem_append_left _ hp, hplace⟩

/-! ## The functions that are open before a line -/

variable (ls : List (List Char))

/-- The lines of the functions that are open before the given one, the innermost first. -/
def openLines (number : Nat) : List Nat :=
  (underWay ls number).opened.map (·.start)

/-- What the stack holds before a line: functions that started one after the other, each with the
depth before its line. -/
structure Tracks (number : Nat) (b : Builder) : Prop where
  depth : b.depth = depthBefore ls number
  entries : ∀ entry ∈ b.stack, entry.1 < number ∧ entry.2 = depthBefore ls entry.1
  ordered : b.stack.Pairwise fun inner outer => outer.1 < inner.1

lemma nodup_of_ordered {stack : List (Nat × Int)}
    (h : stack.Pairwise fun inner outer => outer.1 < inner.1) : stack.Nodup := by
  refine h.imp fun hlt heq => ?_
  rw [heq] at hlt
  exact Nat.lt_irrefl _ hlt

variable {ls} {number start : Nat}

lemma openLines_eq : openLines ls number = (underWay ls number).stack.map (·.1) := by
  rw [openLines, Builder.stack, List.map_map]
  rfl

lemma Tracks.declareOn {b : Builder} (h : Tracks ls number b) (line : List Char) :
    (∀ entry ∈ (b.declareOn number line).stack,
        entry.1 < number + 1 ∧ entry.2 = depthBefore ls entry.1) ∧
      (b.declareOn number line).stack.Pairwise fun inner outer => outer.1 < inner.1 := by
  have hentries : ∀ entry ∈ b.stack, entry.1 < number + 1 ∧ entry.2 = depthBefore ls entry.1 := by
    intro entry hentry
    obtain ⟨hlt, hdepth⟩ := h.entries entry hentry
    exact ⟨by omega, hdepth⟩
  rw [stack_declareOn]
  split
  · refine ⟨List.forall_mem_cons.mpr ⟨⟨Nat.lt_succ_self number, h.depth⟩, hentries⟩, ?_⟩
    exact List.pairwise_cons.mpr ⟨fun entry hentry => (h.entries entry hentry).1, h.ordered⟩
  · exact ⟨hentries, h.ordered⟩

lemma Tracks.step {b : Builder} (h : Tracks ls number b) (hnumber : number < ls.length) :
    Tracks ls (number + 1) (b.step number (ls.getD number [])) := by
  obtain ⟨hentries, hordered⟩ := h.declareOn (ls.getD number [])
  have hsuffix := Builder.stack_closeBraces_suffix (b.declareOn number (ls.getD number [])) number
    (unpaired (scrubLine (ls.getD number []))).closing
  rw [← Builder.stack_step] at hsuffix
  refine ⟨?_, fun entry hentry => hentries entry (hsuffix.subset hentry), ?_⟩
  · rw [Builder.depth_step, h.depth, depthBefore_succ hnumber, bracesOn]
  · exact hordered.sublist hsuffix.sublist

/-- **Before every line** the stack holds functions in order. -/
lemma tracks_underWay (hnumber : number ≤ ls.length) : Tracks ls number (underWay ls number) := by
  induction number with
  | zero => exact ⟨rfl, List.forall_mem_nil _, List.Pairwise.nil⟩
  | succ number ih =>
    rw [underWay_succ (by omega)]
    exact (ih (by omega)).step (by omega)

lemma lt_of_mem_openLines (hnumber : number ≤ ls.length) (h : start ∈ openLines ls number) :
    start < number := by
  rw [openLines_eq] at h
  obtain ⟨entry, hentry, rfl⟩ := List.mem_map.mp h
  exact ((tracks_underWay hnumber).entries entry hentry).1

/-- A line is one of those of open functions exactly when the stack holds it with its depth. -/
lemma mem_openLines_iff (hnumber : number ≤ ls.length) :
    start ∈ openLines ls number ↔ (start, depthBefore ls start) ∈ (underWay ls number).stack := by
  rw [openLines_eq]
  refine ⟨fun h => ?_, List.mem_map_of_mem (f := Prod.fst)⟩
  obtain ⟨entry, hentry, rfl⟩ := List.mem_map.mp h
  rw [← ((tracks_underWay hnumber).entries entry hentry).2]
  exact hentry

lemma nodup_openLines (hnumber : number ≤ ls.length) : (openLines ls number).Nodup := by
  rw [openLines_eq, List.nodup_iff_pairwise_ne, List.pairwise_map]
  exact (tracks_underWay hnumber).ordered.imp fun hlt => (Nat.ne_of_lt hlt).symm

lemma openLines_succ_subset (hnumber : number < ls.length) (hstart : start < number)
    (h : start ∈ openLines ls (number + 1)) : start ∈ openLines ls number := by
  rw [openLines_eq, underWay_succ hnumber, Builder.stack_step] at h
  obtain ⟨entry, hentry, rfl⟩ := List.mem_map.mp h
  have hin := (Builder.stack_closeBraces_suffix _ _ _).subset hentry
  rw [stack_declareOn] at hin
  rw [openLines_eq]
  split at hin
  · rcases List.mem_cons.mp hin with rfl | hin
    · exact absurd hstart (Nat.lt_irrefl _)
    · exact List.mem_map_of_mem hin
  · exact List.mem_map_of_mem hin

/-- A function that was closed is not opened again. -/
lemma mem_openLines_of_le {later : Nat} (hle : number ≤ later) (hlater : later ≤ ls.length)
    (hstart : start < number) (h : start ∈ openLines ls later) : start ∈ openLines ls number := by
  induction later, hle using Nat.le_induction with
  | base => exact h
  | succ later hle ih =>
    exact ih (by omega) (openLines_succ_subset (by omega) (by omega) h)

/-! ## The lines on which functions are closed -/

variable (ls) in
/-- The line on which the function of a line is closed: the first one after which it is not open any
more, or its own when there is none. -/
def closingLine (start : Nat) : Nat :=
  ((List.range ls.length).find? fun number =>
    start ∈ openLines ls number && start ∉ openLines ls (number + 1)).getD start

/-- Before a line on which it is open, a function is not closed. -/
lemma open_until {k : Nat} (hk : k < number) (hnumber : number ≤ ls.length)
    (hopen : start ∈ openLines ls number) (hbefore : start ∈ openLines ls k) :
    start ∈ openLines ls (k + 1) := by
  have hstart := lt_of_mem_openLines (by omega) hbefore
  exact mem_openLines_of_le hk hnumber (by omega) hopen

/-- A function that is open before a line is closed on it exactly when it is not open after it. -/
lemma closingLine_eq_iff (hnumber : number < ls.length) (hopen : start ∈ openLines ls number) :
    closingLine ls start = number ↔ start ∉ openLines ls (number + 1) := by
  constructor
  · intro hline
    have hstart := lt_of_mem_openLines (by omega) hopen
    rw [closingLine] at hline
    cases hfind : (List.range ls.length).find? fun number =>
        start ∈ openLines ls number && start ∉ openLines ls (number + 1) with
    | none =>
      rw [hfind, Option.getD_none] at hline
      omega
    | some k =>
      rw [hfind, Option.getD_some] at hline
      subst hline
      simpa [hopen] using List.find?_some hfind
  · intro hclosed
    have hfind : ((List.range ls.length).find? fun number =>
        start ∈ openLines ls number && start ∉ openLines ls (number + 1)) = some number := by
      rw [List.find?_range_eq_some]
      refine ⟨by simp [hopen, hclosed], List.mem_range.mpr hnumber, fun k hk => ?_⟩
      simpa [imp_iff_not_or] using open_until hk (by omega) hopen
    rw [closingLine, hfind, Option.getD_some]

lemma closingLine_of_open (h : start ∈ openLines ls ls.length) : closingLine ls start = start := by
  have hfind : ((List.range ls.length).find? fun number =>
      start ∈ openLines ls number && start ∉ openLines ls (number + 1)) = none := by
    rw [List.find?_eq_none]
    intro k hk
    simpa using open_until (List.mem_range.mp hk) (Nat.le_refl _) h
  rw [closingLine, hfind, Option.getD_none]

/-! ## The outline of the whole text -/

/-- The braces of a line move nothing, and its declaration comes last. -/
lemma placements_underWay_succ (hnumber : number < ls.length) :
    (underWay ls (number + 1)).placements (closingLine ls) =
      ((underWay ls number).declareOn number (ls.getD number [])).placements (closingLine ls) := by
  obtain ⟨hentries, hordered⟩ :=
    (tracks_underWay (Nat.le_of_lt hnumber)).declareOn (ls.getD number [])
  rw [underWay_succ hnumber, Builder.placements_step]
  refine Builder.placements_closeBraces_of_notMem _ (nodup_of_ordered hordered)
    fun entry hentry hgone => ?_
  have hdepth := (hentries entry hentry).2
  rw [← Builder.stack_step] at hgone
  by_cases hopens : opensFunction (ls.getD number []) = true
  · rw [Builder.stack_step_of_opensFunction _ hopens] at hgone
    rw [stack_declareOn, if_pos hopens] at hentry
    exact absurd hentry hgone
  · rw [stack_declareOn, if_neg hopens] at hentry
    rw [← underWay_succ hnumber] at hgone
    have hopen : entry.1 ∈ openLines ls number := by
      rw [openLines_eq]
      exact List.mem_map_of_mem hentry
    rw [closingLine_eq_iff hnumber hopen, mem_openLines_iff hnumber, ← hdepth]
    exact hgone

lemma placements_subset_succ (hnumber : number < ls.length) :
    (underWay ls number).placements (closingLine ls) ⊆
      (underWay ls (number + 1)).placements (closingLine ls) := by
  rw [placements_underWay_succ hnumber]
  simp only [Builder.declareOn]
  split
  · rw [Builder.placements_declare]
    exact List.subset_append_left _ _
  · exact List.Subset.refl _

/-- **A node keeps its place** from the line after its declaration to the end of the text. -/
lemma mem_placements_build {text : String} {p : Placement}
    (hnumber : number ≤ (lines text.toList).length)
    (hp : p ∈ (underWay (lines text.toList) number).placements (closingLine (lines text.toList))) :
    p ∈ placements (build text) := by
  have hend : p ∈ (built text).placements (closingLine (lines text.toList)) := by
    rw [← underWay_length]
    induction hnumber using Nat.decreasingInduction with
    | self => exact hp
    | of_succ number hnumber ih => exact ih (placements_subset_succ hnumber hp)
  rw [placements_build, Builder.placements]
  rw [Builder.placements, openPlacements_congr fun o ho => ?_] at hend
  · exact hend
  · refine closingLine_of_open ?_
    rw [openLines, underWay_length]
    exact List.mem_map_of_mem (f := OpenFunction.start) ho

lemma stack_underWay (hnumber : number ≤ ls.length) :
    (underWay ls number).stack =
      (openLines ls number).map fun start => (start, depthBefore ls start) := by
  rw [openLines_eq, List.map_map, List.map_congr_left fun entry hentry => ?_, List.map_id]
  exact Prod.ext rfl ((tracks_underWay hnumber).entries entry hentry).2.symm

/-- Which open functions a line closes. -/
lemma closingLine_eq_iff_descends {above below : List Nat} (hnumber : number < ls.length)
    (hopen : openLines ls number = above ++ start :: below) :
    closingLine ls start = number ↔
      endsOn ls start number = true ∧ opensFunction (ls.getD number []) = false ∧
        (depthBefore ls number :: (above ++ [start]).map (depthBefore ls)).Pairwise (· > ·) := by
  have hmem : start ∈ openLines ls number := by
    rw [hopen]
    simp
  have htracks := tracks_underWay (Nat.le_of_lt hnumber)
  have hstack := stack_underWay (Nat.le_of_lt hnumber)
  rw [hopen, List.map_append, List.map_cons] at hstack
  rw [closingLine_eq_iff hnumber hmem, mem_openLines_iff hnumber, underWay_succ hnumber,
    Builder.mem_stack_step_iff _ hstack (nodup_of_ordered htracks.ordered), htracks.depth, not_or,
    not_not, Bool.not_eq_true]
  have hdescends : Builder.Descends (depthBefore ls number)
        (above.map (fun start => (start, depthBefore ls start)) ++
          [(start, depthBefore ls start)]) ↔
      (depthBefore ls number :: (above ++ [start]).map (depthBefore ls)).Pairwise (· > ·) := by
    rw [Builder.Descends, List.map_append, List.map_map, List.map_append]
    rfl
  rw [hdescends, endsOn, decide_eq_true_eq, bracesOn]
  constructor
  · rintro ⟨hopens, hdepths, hle⟩
    exact ⟨hle, hopens, hdepths⟩
  · rintro ⟨hle, hopens, hdepths⟩
    exact ⟨hopens, hdepths, hle⟩

/-- What a line declares is a node inside the innermost function that is open before the line. -/
lemma exists_placement {text : String} {entry : Entry}
    (hnumber : number < (lines text.toList).length)
    (hentry : entryOn
      ((attributeOn (scrubLine ((lines text.toList).getD number []))).or
        (underWay (lines text.toList) number).mark)
      (String.ofList ((lines text.toList).getD number [])) = some entry) :
    ∃ p ∈ placements (build text), p.start = number ∧ p.entry = entry ∧
      p.parent = (openLines (lines text.toList) number).head? := by
  have hdeclared := placements_underWay_succ hnumber
  simp only [Builder.declareOn, hentry] at hdeclared
  rw [Builder.placements_declare] at hdeclared
  refine ⟨_, mem_placements_build hnumber (hdeclared ▸ List.mem_append_right _ List.mem_cons_self),
    rfl, rfl, ?_⟩
  rw [innermost?, openLines, List.head?_map]

lemma exists_declared {text : String} {f : FunctionLine}
    (hnumber : number < (lines text.toList).length)
    (hf : FunctionLine.find? (String.ofList ((lines text.toList).getD number [])) = some f) :
    ∃ p ∈ placements (build text), p.start = number ∧ p.entry.name = f.name ∧
      p.entry.kind = .function ∧ p.parent = (openLines (lines text.toList) number).head? := by
  obtain ⟨p, hp, hstart, hentry, hparent⟩ := exists_placement hnumber (by rw [entryOn, hf])
  exact ⟨p, hp, hstart, by rw [hentry], by rw [hentry], hparent⟩

/-- **What a line closes, and where it puts what it declares.**  Let a function be open before a
line, and let `above` be the functions that are open further in.  The function is closed on the line
exactly when the closing braces of the line bring the depth down to where it was opened, the line
does not open a function, and the depths at which the functions further in and this one were opened
decrease strictly from the depth of the line.  A function that the line declares becomes a child of
the open function exactly when none is open further in, whether the line closes it or not. -/
theorem closed_on_line_iff {text : String} {number start : Nat} {above below : List Nat}
    (hnumber : number < (lines text.toList).length)
    (hopen : openLines (lines text.toList) number = above ++ start :: below) :
    let ls := lines text.toList
    let line := ls.getD number []
    (∃ p ∈ placements (build text), p.start = start ∧
        (p.stop = number ↔
          endsOn ls start number = true ∧ opensFunction line = false ∧
            (depthBefore ls number :: (above ++ [start]).map (depthBefore ls)).Pairwise (· > ·))) ∧
      ∀ f, FunctionLine.find? (String.ofList line) = some f →
        ∃ p ∈ placements (build text), p.start = number ∧ p.entry.name = f.name ∧
          p.entry.kind = .function ∧ (p.parent = some start ↔ above = []) := by
  intro ls line
  constructor
  · have hmem : start ∈ openLines ls number := by
      rw [hopen]
      simp
    obtain ⟨o, ho, rfl⟩ := List.mem_map.mp hmem
    obtain ⟨p, hp, hstart, hstop⟩ := exists_mem_openPlacements ho (closingLine ls)
    refine ⟨p, mem_placements_build (Nat.le_of_lt hnumber) (List.mem_append_right _ hp), hstart, ?_⟩
    rw [hstop]
    exact closingLine_eq_iff_descends hnumber hopen
  · intro f hf
    obtain ⟨p, hp, hstart, hname, hkind, hparent⟩ := exists_declared hnumber hf
    refine ⟨p, hp, hstart, hname, hkind, ?_⟩
    have hnodup := nodup_openLines (Nat.le_of_lt hnumber)
    rw [hparent, hopen]
    rw [hopen] at hnodup
    cases above with
    | nil => simp
    | cons top above =>
      have hne : top ≠ start := by
        rintro rfl
        exact (List.nodup_cons.mp hnodup).1 (by simp)
      simp [hne]

/-- Two functions are closed by the line that declares a third one.  The outer function ends on the
line, and the new one belongs to the inner one. -/
theorem closed_on_line_iff_twoClosed :
    let text := "fn f() \x7b\nfn g() \x7b\n\x7d \x7d fn h() \x7b 1 \x7d"
    2 < (lines text.toList).length ∧
      openLines (lines text.toList) 2 = [1] ++ 0 :: [] ∧
      (∃ p ∈ placements (build text), p.start = 0 ∧ p.stop = 2) ∧
      ∃ p ∈ placements (build text), p.start = 2 ∧ p.entry.name = "h" ∧ p.parent ≠ some 0 := by
  intro text
  have hnumber : 2 < (lines text.toList).length := by decide +kernel
  have hopen : openLines (lines text.toList) 2 = [1] ++ 0 :: [] := by decide +kernel
  have hfind : FunctionLine.find? (String.ofList ((lines text.toList).getD 2 [])) =
      some ⟨"h", "()"⟩ := by decide +kernel
  obtain ⟨⟨p, hp, hstart, hstop⟩, hdeclared⟩ := closed_on_line_iff hnumber hopen
  obtain ⟨q, hq, hline, hname, -, hparent⟩ := hdeclared _ hfind
  refine ⟨hnumber, hopen, ⟨p, hp, hstart, hstop.mpr (by decide +kernel)⟩, q, hq, hline, hname, ?_⟩
  rw [Ne, hparent]
  exact List.cons_ne_nil 1 []

/-- The brace before the next function closes nothing, and that function becomes a child of the
first one. -/
theorem closing_may_be_missed :
    let text := "fn f() \x7b\n\x7d fn g() \x7b"
    openLines (lines text.toList) 1 = [0] ∧ endsOn (lines text.toList) 0 1 = true ∧
      (placements (build text)).map (fun p => (p.parent, p.entry.name, p.start, p.stop)) =
        [(none, "f", 0, 0), (some 0, "g", 1, 1)] := by
  refine ⟨?_, ?_, ?_⟩
  all_goals decide +kernel

end LanguageServer.Outline
