import Mathlib.Algebra.Ring.Int.Defs
import Mathlib.Data.List.GetD
import Mathlib.Data.List.Pairwise
import LanguageServer.Proofs.Source.Brace
import LanguageServer.Source.Declaration

/-!
# Functions that are open on a line

Which functions of a script are open on a line can be said without a stack.  The depth before a line
is the number of opening braces minus the number of closing ones on all the lines before it
(`depthBefore`).  A *header* is a line that declares a function and opens its block.  The function
of a header ends on the first later line whose closing braces bring the depth down to what it was
before the header (`endsOn`, `stopLine`), and a line lies in the function of the last header before
it that has not ended by then (`parentLine?`).

On a *regular* line a function either has its body on the line, which leaves no block open, or opens
a block and closes none that was open before (`Regular`).  If all lines are regular, the depths
before the open headers increase strictly inwards and stay below the depth of the line
(`pairwise_depthBefore`).
-/

namespace LanguageServer.Outline

open Text Source

variable (ls : List (List Char))

/-! ## Headers and where they end -/

/-- The braces without a partner on the line of the given number. -/
def bracesOn (number : Nat) : Unpaired :=
  unpaired (scrubLine (ls.getD number []))

/-- The depth of nesting before a line: all opening braces on the lines before it minus all closing
ones. -/
def depthBefore (number : Nat) : Int :=
  ((ls.take number).map fun line =>
    ((scrubLine line).count '{' : Int) - (scrubLine line).count '}').sum

/-- Does the line declare a function and leave a block open? -/
def isHeader (number : Nat) : Bool :=
  (FunctionLine.find? (String.ofList (ls.getD number []))).isSome &&
    0 < (bracesOn ls number).opening

/-- Do the closing braces of the line bring the depth down to what it was before the header? -/
def endsOn (header number : Nat) : Bool :=
  depthBefore ls number - (bracesOn ls number).closing ≤ depthBefore ls header

/-- The line on which the function of a header ends: the first line after the header whose closing
braces bring the depth down, or the header itself when there is none. -/
def stopLine (header : Nat) : Nat :=
  ((List.range ls.length).find? fun number =>
    header < number && endsOn ls header number).getD header

/-- Is the line a header whose function ends on no line between it and the given one? -/
def isOpen (number header : Nat) : Bool :=
  isHeader ls header && (List.range number).all fun k => k ≤ header || !endsOn ls header k

/-- The last header before the line whose function has not ended before the line. -/
def parentLine? (number : Nat) : Option Nat :=
  (List.range number).reverse.find? (isOpen ls number)

/-- If the line declares a function, then it either holds a block and leaves none open, or it leaves
a block open and closes none. -/
def Regular (line : List Char) : Prop :=
  (FunctionLine.find? (String.ofList line)).isSome = true →
    '{' ∈ scrubLine line ∧ (unpaired (scrubLine line)).opening = 0 ∨
      0 < (unpaired (scrubLine line)).opening ∧ (unpaired (scrubLine line)).closing = 0

instance : DecidablePred Regular :=
  fun _ => inferInstanceAs (Decidable (_ → _))

/-! ## The headers that are open before a line -/

/-- The headers whose functions are open before the line, the last one first. -/
def openHeaders (number : Nat) : List Nat :=
  (List.range number).reverse.filter (isOpen ls number)

lemma parentLine?_eq (number : Nat) : parentLine? ls number = (openHeaders ls number).head? :=
  List.head?_filter.symm

variable {ls} {number header : Nat}

lemma mem_openHeaders :
    header ∈ openHeaders ls number ↔ header < number ∧ isOpen ls number header = true := by
  rw [openHeaders, List.mem_filter, List.mem_reverse, List.mem_range]

lemma isOpen_iff :
    isOpen ls number header = true ↔
      isHeader ls header = true ∧
        ∀ k, header < k → k < number → endsOn ls header k = false := by
  simp only [isOpen, Bool.and_eq_true, List.all_eq_true, List.mem_range, Bool.or_eq_true,
    decide_eq_true_eq, Bool.not_eq_true']
  refine and_congr_right fun _ => ⟨fun h k hlt hk => ?_, fun h k hk => ?_⟩
  · exact (h k hk).resolve_left (by omega)
  · rcases Nat.lt_or_ge header k with hlt | hge
    · exact Or.inr (h k hlt hk)
    · exact Or.inl hge

lemma isOpen_succ (hlt : header < number) :
    isOpen ls (number + 1) header = (isOpen ls number header && !endsOn ls header number) := by
  have hafter : ¬ number ≤ header := by omega
  simp [isOpen, List.range_succ, List.all_append, Bool.and_assoc, hafter]

lemma isOpen_succ_self : isOpen ls (number + 1) number = isHeader ls number := by
  have hall :
      ((List.range (number + 1)).all fun k => k ≤ number || !endsOn ls number k) = true := by
    rw [List.all_eq_true]
    intro k hk
    have hle : k ≤ number := by
      rw [List.mem_range] at hk
      omega
    simp [hle]
  rw [isOpen, hall, Bool.and_true]

/-- After a line those headers are left open that do not end on it, and the line is one of them if
it is a header itself. -/
lemma openHeaders_succ (number : Nat) :
    openHeaders ls (number + 1) =
      (if isHeader ls number = true then [number] else []) ++
        (openHeaders ls number).filter fun header => !endsOn ls header number := by
  have hbefore : (List.range number).reverse.filter (isOpen ls (number + 1)) =
      (openHeaders ls number).filter fun header => !endsOn ls header number := by
    rw [openHeaders, List.filter_filter]
    refine List.filter_congr fun header hmem => ?_
    rw [isOpen_succ (List.mem_range.mp (List.mem_reverse.mp hmem)), Bool.and_comm]
  rw [openHeaders, List.range_succ, List.reverse_append, List.reverse_singleton,
    List.singleton_append, List.filter_cons, isOpen_succ_self, hbefore]
  split <;> rfl

/-! ## Depths -/

lemma depthBefore_succ (hnumber : number < ls.length) :
    depthBefore ls (number + 1) =
      depthBefore ls number - (bracesOn ls number).closing + (bracesOn ls number).opening := by
  have hbalance := opening_sub_closing (scrubLine (ls.getD number []))
  rw [depthBefore, List.take_succ_eq_append_getElem hnumber, List.map_append, List.sum_append,
    List.map_singleton, List.sum_singleton, ← depthBefore, ← List.getD_eq_getElem ls [] hnumber]
  simp only [bracesOn]
  omega

lemma closing_of_isHeader (hregular : ∀ line ∈ ls, Regular line) (hnumber : number < ls.length)
    (h : isHeader ls number = true) : (bracesOn ls number).closing = 0 := by
  rw [isHeader, Bool.and_eq_true, decide_eq_true_eq] at h
  have hmem : ls.getD number [] ∈ ls := by
    rw [List.getD_eq_getElem ls [] hnumber]
    exact List.getElem_mem hnumber
  rcases hregular _ hmem h.1 with ⟨-, hnone⟩ | ⟨-, hclosing⟩
  · exact absurd h.2 (by rw [bracesOn, hnone]; simp)
  · exact hclosing

/-- Before a line the depth is greater than it was before any header that is still open. -/
lemma depthBefore_lt (hregular : ∀ line ∈ ls, Regular line) (hnumber : number ≤ ls.length)
    (hlt : header < number) (h : isOpen ls number header = true) :
    depthBefore ls header < depthBefore ls number := by
  obtain ⟨last, rfl⟩ : ∃ last, number = last + 1 := ⟨number - 1, by omega⟩
  rw [depthBefore_succ (by omega)]
  rcases Nat.lt_or_ge header last with hbefore | hself
  · rw [isOpen_succ hbefore, Bool.and_eq_true] at h
    have hends : endsOn ls header last = false := by simpa using h.2
    rw [endsOn, decide_eq_false_iff_not] at hends
    omega
  · have heq : header = last := by omega
    subst heq
    rw [isOpen_succ_self] at h
    have hclosing := closing_of_isHeader hregular (by omega) h
    rw [isHeader, Bool.and_eq_true, decide_eq_true_eq] at h
    omega

/-- The depths before the open headers decrease strictly outwards, from the depth before the line
on. -/
lemma pairwise_depthBefore (hregular : ∀ line ∈ ls, Regular line) (hnumber : number ≤ ls.length) :
    (depthBefore ls number :: (openHeaders ls number).map (depthBefore ls)).Pairwise (· > ·) := by
  rw [List.pairwise_cons]
  constructor
  · intro depth hdepth
    obtain ⟨header, hmem, rfl⟩ := List.mem_map.mp hdepth
    obtain ⟨hlt, hopen⟩ := mem_openHeaders.mp hmem
    exact depthBefore_lt hregular hnumber hlt hopen
  · have hlines : (openHeaders ls number).Pairwise (· > ·) := by
      refine List.Pairwise.filter _ ?_
      rw [List.pairwise_reverse]
      exact List.pairwise_lt_range
    rw [List.pairwise_map]
    refine hlines.imp_of_mem ?_
    intro inner outer hinner houter hlt
    obtain ⟨hinnerLt, -⟩ := mem_openHeaders.mp hinner
    obtain ⟨-, houterOpen⟩ := mem_openHeaders.mp houter
    -- What is open before the line was open before the inner header.
    obtain ⟨hheader, hends⟩ := isOpen_iff.mp houterOpen
    have hopen : isOpen ls inner outer = true :=
      isOpen_iff.mpr ⟨hheader, fun k hk hkinner => hends k hk (by omega)⟩
    exact depthBefore_lt hregular (by omega) hlt hopen

/-! ## Where the function of an open header ends -/

lemma stopLine_of_endsOn (hnumber : number < ls.length) (hopen : header ∈ openHeaders ls number)
    (hends : endsOn ls header number = true) : stopLine ls header = number := by
  obtain ⟨hlt, hopen⟩ := mem_openHeaders.mp hopen
  have hbefore := (isOpen_iff.mp hopen).2
  have hfind : ((List.range ls.length).find? fun k => header < k && endsOn ls header k) =
      some number := by
    rw [List.find?_range_eq_some]
    refine ⟨by simp [hlt, hends], List.mem_range.mpr hnumber, fun k hk => ?_⟩
    rcases Nat.lt_or_ge header k with hafter | hge
    · simp [hbefore k hafter hk]
    · simp [Nat.not_lt.mpr hge]
  rw [stopLine, hfind, Option.getD_some]

lemma stopLine_of_isOpen (hopen : header ∈ openHeaders ls ls.length) :
    stopLine ls header = header := by
  obtain ⟨-, hopen⟩ := mem_openHeaders.mp hopen
  have hnever := (isOpen_iff.mp hopen).2
  have hfind : ((List.range ls.length).find? fun k => header < k && endsOn ls header k) = none := by
    rw [List.find?_eq_none]
    intro k hk
    rcases Nat.lt_or_ge header k with hafter | hge
    · simp [hnever k hafter (List.mem_range.mp hk)]
    · simp [Nat.not_lt.mpr hge]
  rw [stopLine, hfind, Option.getD_none]

end LanguageServer.Outline
