import Mathlib.Data.List.Induction
import Mathlib.Logic.Function.Iterate
import Mathlib.Order.Bounds.Defs
import LanguageServer.Proofs.Source.Closing

/-!
# Braces that cancel on their line

Blocks are taken out of a line in rounds, innermost ones first, until a round finds none.  A single
pass from left to right comes to the same end: it holds back the text from every opening brace on,
on a stack, and drops what is on top of the stack at a closing brace (`onePass`).  A round changes
nothing about the pass (`foldl_dropBlocks`), and on a line without blocks the pass drops nothing, so
what the rounds leave is what the pass leaves (`dropBlocks_eq_text`), whatever the order in which
the blocks went.

In what is left no brace opens before another one closes.  To apply all the closing braces of a line
first and then all the opening ones is therefore to apply them in their order, and leads down to the
lowest depth that the line reaches (`isLeast_depth`) and from there to the depth behind it.  Over
any number of lines the outline has the depth that all their braces make
(`Outline.cancellation_is_exact`).
-/

namespace LanguageServer.Source

variable {cs : List Char}

/-! ## Rounds -/

/-- There are no more rounds than the line has characters. -/
lemma exists_iterate_eq_dropBlocks (cs : List Char) :
    ∃ rounds ≤ cs.length, dropInnermost^[rounds] cs = dropBlocks cs := by
  fun_induction dropBlocks cs with
  | case1 cs hfixed => exact ⟨0, Nat.zero_le _, rfl⟩
  | case2 cs hchanged ih =>
    obtain ⟨rounds, hle, hrounds⟩ := ih
    have hshorter := dropInnermost_shorter hchanged
    exact ⟨rounds + 1, by omega, by rw [Function.iterate_succ_apply, hrounds]⟩

lemma notMem_of_fixed {before after : List Char}
    (h : dropInnermost (before ++ '{' :: after) = before ++ '{' :: after) : '}' ∉ after := by
  induction before with
  | nil => exact notMem_of_dropInnermostFrom_eq (by simp) h
  | cons c before ih =>
    by_cases hopen : c = '{'
    · subst hopen
      have hrest : '}' ∉ before ++ '{' :: after := notMem_of_dropInnermostFrom_eq (by simp) h
      exact fun hmem => hrest (List.mem_append_right _ (List.mem_cons_of_mem _ hmem))
    · exact ih (dropInnermost_tail hopen h)

/-! ## One pass -/

/-- What a pass over a text holds. -/
structure Pass where
  /-- The text before the first opening brace that waits for its partner, without blocks. -/
  outside : List Char
  /-- For each opening brace that waits, the text from it on, without blocks; the last one is on
  top. -/
  held : List (List Char)
deriving DecidableEq, Repr

namespace Pass

variable (p : Pass)

/-- Takes in one more character. -/
def next (c : Char) : Pass :=
  if c = '{' then { p with held := ['{'] :: p.held }
  else match p.held with
    | [] => { p with outside := p.outside ++ [c] }
    | top :: rest =>
      if c = '}' then { p with held := rest } else { p with held := (top ++ [c]) :: rest }

/-- What is left of the text. -/
def text : List Char :=
  p.outside ++ p.held.reverse.flatten

/-- The number of closing braces that met an empty stack. -/
def stray : Nat :=
  p.outside.count '}'

/-- Only a closing brace that meets an opening one takes anything away. -/
lemma text_next {c : Char} (h : c = '}' → p.held = []) : (p.next c).text = p.text ++ [c] := by
  obtain ⟨outside, held⟩ := p
  by_cases hopen : c = '{'
  · subst hopen
    simp [next, text]
  · cases held with
    | nil => simp [next, text, hopen]
    | cons top rest =>
      have hclose : c ≠ '}' := fun hc => by cases h hc
      simp [next, text, hopen, hclose]

lemma unpaired_next (c : Char) :
    (⟨(p.next c).stray, (p.next c).held.length⟩ : Unpaired) =
      Unpaired.next ⟨p.stray, p.held.length⟩ c := by
  obtain ⟨outside, held⟩ := p
  by_cases hopen : c = '{'
  · subst hopen
    simp [next, stray, Unpaired.next]
  · cases held with
    | nil => by_cases hclose : c = '}' <;> simp [next, stray, Unpaired.next, hopen, hclose]
    | cons top rest =>
      by_cases hclose : c = '}' <;> simp [next, stray, Unpaired.next, hopen, hclose]

lemma foldl_next_held {plain : List Char} (hplain : ∀ c ∈ plain, c ≠ '{' ∧ c ≠ '}')
    (outside top : List Char) (rest : List (List Char)) :
    plain.foldl next ⟨outside, top :: rest⟩ = ⟨outside, (top ++ plain) :: rest⟩ := by
  induction plain generalizing top with
  | nil => rw [List.append_nil, List.foldl_nil]
  | cons c plain ih =>
    rw [List.forall_mem_cons] at hplain
    have hstep : next ⟨outside, top :: rest⟩ c = ⟨outside, (top ++ [c]) :: rest⟩ := by
      simp [next, hplain.1]
    rw [List.foldl_cons, hstep, ih hplain.2, List.append_assoc, List.singleton_append]

/-- A pass drops a block as if it were not there. -/
lemma passesBlocks : PassesBlocks next := by
  intro plain hplain p
  have hopened : p.next '{' = ⟨p.outside, ['{'] :: p.held⟩ := rfl
  rw [List.cons_append, List.foldl_cons, hopened, List.foldl_append, foldl_next_held hplain]
  rfl

lemma text_foldl_of_notMem (hclose : '}' ∉ cs) : (cs.foldl next p).text = p.text ++ cs := by
  induction cs generalizing p with
  | nil => exact (List.append_nil _).symm
  | cons c cs ih =>
    rw [List.mem_cons, not_or] at hclose
    rw [List.foldl_cons, ih _ hclose.2, text_next _ fun hc => absurd hc.symm hclose.1,
      List.append_assoc, List.singleton_append]

lemma text_foldl_of_fixed (h : dropInnermost cs = cs) (hheld : p.held = []) :
    (cs.foldl next p).text = p.text ++ cs := by
  induction cs generalizing p with
  | nil => exact (List.append_nil _).symm
  | cons c cs ih =>
    have htext := p.text_next fun _ : c = '}' => hheld
    rw [List.foldl_cons]
    by_cases hopen : c = '{'
    · subst hopen
      have hclose : '}' ∉ cs := notMem_of_dropInnermostFrom_eq (by simp) h
      rw [text_foldl_of_notMem _ hclose, htext, List.append_assoc, List.singleton_append]
    · have hstill : (p.next c).held = [] := by simp [next, hopen, hheld]
      rw [ih _ (dropInnermost_tail hopen h) hstill, htext, List.append_assoc, List.singleton_append]

end Pass

/-- What a single pass over the text from left to right holds in the end. -/
def onePass (cs : List Char) : Pass :=
  cs.foldl Pass.next ⟨[], []⟩

/-- **Rounds leave what a single pass leaves.** -/
lemma dropBlocks_eq_text (cs : List Char) : dropBlocks cs = (onePass cs).text := by
  have hfixed := dropInnermost_dropBlocks cs
  have hsame : onePass (dropBlocks cs) = onePass cs :=
    foldl_dropBlocks Pass.passesBlocks cs ⟨[], []⟩
  rw [← hsame, onePass, Pass.text_foldl_of_fixed _ hfixed rfl]
  rfl

/-- The braces without a partner are those that the pass has on its stack in the end, and those that
met an empty one. -/
lemma unpaired_eq_onePass (cs : List Char) :
    unpaired cs = ⟨(onePass cs).stray, (onePass cs).held.length⟩ := by
  have hfold : ∀ p : Pass, cs.foldl Unpaired.next ⟨p.stray, p.held.length⟩ =
      ⟨(cs.foldl Pass.next p).stray, (cs.foldl Pass.next p).held.length⟩ := by
    induction cs with
    | nil => exact fun p => rfl
    | cons c cs ih =>
      intro p
      rw [List.foldl_cons, List.foldl_cons, ← ih, Pass.unpaired_next]
  exact hfold ⟨[], []⟩

/-! ## Depths on a line -/

lemma closing_le_foldl (cs : List Char) (u : Unpaired) :
    u.closing ≤ (cs.foldl Unpaired.next u).closing := by
  induction cs generalizing u with
  | nil => exact Nat.le_refl _
  | cons c cs ih =>
    refine Nat.le_trans ?_ (ih (u.next c))
    unfold Unpaired.next
    split
    · exact Nat.le_refl _
    · split
      · split
        · exact Nat.le_succ _
        · exact Nat.le_refl _
      · exact Nat.le_refl _

lemma unpaired_append (front back : List Char) :
    unpaired (front ++ back) = back.foldl Unpaired.next (unpaired front) :=
  List.foldl_append

/-- Behind the last closing brace without a partner, no opening one before it waits. -/
lemma exists_lowest (cs : List Char) :
    ∃ front back, cs = front ++ back ∧ (unpaired front).opening = 0 ∧
      (unpaired front).closing = (unpaired cs).closing := by
  induction cs using List.reverseRecOn with
  | nil => exact ⟨[], [], rfl, rfl, rfl⟩
  | append_singleton cs c ih =>
    obtain ⟨front, back, rfl, hopening, hclosing⟩ := ih
    have hlast : unpaired (front ++ back ++ [c]) = (unpaired (front ++ back)).next c :=
      unpaired_append _ _
    by_cases hstray : c = '}' ∧ (unpaired (front ++ back)).opening = 0
    · -- The brace goes down once more.
      refine ⟨front ++ back ++ [c], [], (List.append_nil _).symm, ?_, rfl⟩
      rw [hlast, Unpaired.next, if_neg (by rw [hstray.1]; decide), if_pos hstray.1, if_pos hstray.2]
      exact hstray.2
    · refine ⟨front, back ++ [c], List.append_assoc _ _ _, hopening, ?_⟩
      rw [hclosing, hlast, Unpaired.next]
      split
      · rfl
      · split
        · rename_i hclose
          rw [if_neg fun hzero => hstray ⟨hclose, hzero⟩]
        · rfl

/-- **The closing braces without a partner lead to the lowest depth** that is reached when the
braces of a line are followed one by one. -/
lemma isLeast_depth (cs : List Char) :
    IsLeast {depth : Int | ∃ front back, cs = front ++ back ∧
      depth = front.count '{' - front.count '}'} (-((unpaired cs).closing : Int)) := by
  constructor
  · obtain ⟨front, back, hcs, hopening, hclosing⟩ := exists_lowest cs
    refine ⟨front, back, hcs, ?_⟩
    rw [← opening_sub_closing, hopening, hclosing]
    omega
  · rintro depth ⟨front, back, rfl, rfl⟩
    have hle : (unpaired front).closing ≤ (unpaired (front ++ back)).closing := by
      rw [unpaired_append]
      exact closing_le_foldl back _
    rw [← opening_sub_closing]
    omega

end LanguageServer.Source

namespace LanguageServer.Outline

open Text Source

/-! ## Depths over the lines -/

lemma depthBefore_eq_count (ls : List (List Char)) (number : Nat) :
    depthBefore ls number =
      (((ls.take number).flatMap scrubLine).count '{' : Int) -
        ((ls.take number).flatMap scrubLine).count '}' := by
  rw [depthBefore]
  induction ls.take number with
  | nil => rfl
  | cons line rest ih =>
    rw [List.map_cons, List.sum_cons, ih, List.flatMap_cons, List.count_append, List.count_append]
    omega

/-- **The depth after any number of lines** is what all the braces on them make. -/
lemma depth_underWay (ls : List (List Char)) (number : Nat) :
    (underWay ls number).depth =
      (((ls.take number).flatMap scrubLine).count '{' : Int) -
        ((ls.take number).flatMap scrubLine).count '}' := by
  rw [← depthBefore_eq_count]
  rcases Nat.le_total number ls.length with hle | hge
  · exact (tracks_underWay hle).depth
  · -- Behind the last line nothing happens any more.
    have hall := (tracks_underWay (Nat.le_refl ls.length)).depth
    rwa [underWay, depthBefore, List.take_length, ← List.take_of_length_le hge, ← underWay,
      ← depthBefore] at hall

/-- **Braces cancel exactly on their line.**  For every line, taking out blocks comes to an end
after finitely many rounds, when a round finds none; what is left has no opening brace before a
closing one, and it is what a single pass with a stack leaves: its opening braces are those on the
stack in the end, its closing ones those that met an empty stack.

Hence closing braces can be applied before opening ones.  Followed one by one, the braces of the
line lead down by as many as are left closing, no lower, and in the end by as much less as are left
opening.  For every text the depth after any number of lines is the number of all opening braces on
their scrubbed forms minus that of all closing ones. -/
theorem cancellation_is_exact :
    (∀ line : List Char,
      (∃ rounds ≤ line.length, dropInnermost^[rounds] line = dropBlocks line ∧
        dropInnermost (dropBlocks line) = dropBlocks line) ∧
      (∀ before after, dropBlocks line = before ++ '{' :: after → '}' ∉ after) ∧
      dropBlocks line = (onePass line).text ∧
      (dropBlocks line).count '{' = (onePass line).held.length ∧
      (dropBlocks line).count '}' = (onePass line).stray ∧
      IsLeast {depth : Int | ∃ front back, line = front ++ back ∧
        depth = front.count '{' - front.count '}'} (-((dropBlocks line).count '}' : Int)) ∧
      (line.count '{' : Int) - line.count '}' =
        -((dropBlocks line).count '}' : Int) + (dropBlocks line).count '{') ∧
    ∀ (text : String) (number : Nat),
      (underWay (lines text.toList) number).depth =
        ((((lines text.toList).take number).flatMap scrubLine).count '{' : Int) -
          (((lines text.toList).take number).flatMap scrubLine).count '}' := by
  refine ⟨fun line => ?_, fun text number => depth_underWay _ _⟩
  have hfixed := dropInnermost_dropBlocks line
  obtain ⟨rounds, hle, hrounds⟩ := exists_iterate_eq_dropBlocks line
  obtain ⟨hclosing, hopening⟩ := count_dropBlocks line
  have hpass := unpaired_eq_onePass line
  have hbalance := opening_sub_closing line
  refine ⟨⟨rounds, hle, hrounds, hfixed⟩, ?_, dropBlocks_eq_text line, ?_, ?_, ?_, ?_⟩
  · intro before after hleft
    rw [hleft] at hfixed
    exact notMem_of_fixed hfixed
  · rw [hopening, hpass]
  · rw [hclosing, hpass]
  · rw [hclosing]
    exact isLeast_depth line
  · rw [hclosing, hopening]
    omega

end LanguageServer.Outline
