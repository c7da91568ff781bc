import Mathlib.Data.List.Basic
import LanguageServer.Proofs.Source.Symbol
import LanguageServer.Source.Declaration

/-!
# The functions that a line names

A line declares a function where the keyword `fn`, a gap and a name stand in its code, the keyword
and the name as whole words.  What follows the name does not count.

The keyword can itself stand in the place of a name: in `fn fn fn f` the second keyword is the name
of a function, and the third declares `f`.  Whether a keyword declares a function or is a name
depends on how many keywords stand directly before it, and `FunctionLine.Opens` says so without a
reader.  With it the functions that a line declares are read off its code
(`FunctionLine.declares_iff_names`).
-/

namespace LanguageServer.FunctionLine

open Text Source
open LanguageServer.Symbol (functionKeyword)

variable {cs input rest name gap : List Char}

/-- A keyword that stands after the text opens a declaration: it is the first of the keywords that
stand in a row, or two keywords after one that does. -/
inductive Opens : List Char → Prop
  | first {before : List Char} (hstart : wordStart before.getLast? = true)
      (hfirst : ∀ front gap, before = front ++ (functionKeyword ++ gap) → isGap gap = true →
        wordStart front.getLast? = false) : Opens before
  | third {before gap gap' : List Char} (hbefore : Opens before) (hgap : isGap gap = true)
      (hgap' : isGap gap' = true) :
      Opens (before ++ (functionKeyword ++ (gap ++ (functionKeyword ++ gap'))))

/-- The code declares a function of this name. -/
def Names (code name : List Char) : Prop :=
  ∃ before gap after, code = before ++ (functionKeyword ++ (gap ++ (name ++ after))) ∧
    Opens before ∧ isGap gap = true ∧ isName isWord name = true ∧
    ∀ c ∈ after.head?, isWord c = false

/-! ## Reading one declaration -/

lemma named?_eq_some_iff :
    named? cs = some (name, rest) ↔
      ∃ gap, cs = functionKeyword ++ (gap ++ (name ++ rest)) ∧ isGap gap = true ∧
        isName isWord name = true ∧ ∀ c ∈ rest.head?, isWord c = false := by
  simp only [named?, Option.bind_eq_bind, Option.bind_eq_some_iff, strip?_eq_some_iff]
  constructor
  · rintro ⟨afterKeyword, rfl, afterGap, hgap, hname⟩
    obtain ⟨gap, hisGap, rfl⟩ := gap_of_skipBlanks1? hgap
    obtain ⟨hisName, rfl⟩ := name_of_name? hname
    exact ⟨gap, rfl, hisGap, hisName, stop_of_name? hname⟩
  · rintro ⟨gap, rfl, hgap, hname, hstop⟩
    exact ⟨_, rfl, _, skipBlanks1?_gap hgap hname rest, name?_append hname hstop⟩

lemma named?_keyword (hgap : isGap gap = true) (h : named? input = some (name, rest)) :
    ∃ after, input = functionKeyword ++ after ∧
      named? (functionKeyword ++ (gap ++ input)) = some (functionKeyword, after) := by
  obtain ⟨gap', rfl, hgap', -, -⟩ := named?_eq_some_iff.mp h
  exact ⟨_, rfl, named?_eq_some_iff.mpr ⟨gap, rfl, hgap, by decide, isWord_head_gap hgap'⟩⟩

lemma append_keyword_inj {front front' gap' : List Char} (hgap : isGap gap = true)
    (hgap' : isGap gap' = true)
    (h : front ++ (functionKeyword ++ gap) = front' ++ (functionKeyword ++ gap')) :
    front = front' := by
  have hnotMem {gap : List Char} (hgap : isGap gap = true) : 'n' ∉ gap := fun hmem =>
    absurd (isBlank_of_mem_gap hgap hmem) (by decide)
  have hcut : (front ++ ['f']) ++ 'n' :: gap = (front' ++ ['f']) ++ 'n' :: gap' := by
    rw [List.append_assoc, List.append_assoc]
    exact h
  exact List.append_cancel_right (append_separator_inj hcut (hnotMem hgap) (hnotMem hgap')).1

/-! ## Overlapping declarations -/

/-- What is read at a place reaches beyond the start of a later declaration only if this start is
the start of the name. -/
lemma keyword_of_reaches {passed other left : List Char}
    (hinput : named? input = some (name, rest))
    (hitem : named? (passed ++ input) = some (other, left)) (hne : passed ≠ [])
    (hstart : wordStart passed.getLast? = true) (hleft : left.length < input.length) :
    ∃ gap, passed = functionKeyword ++ gap ∧ isGap gap = true := by
  obtain ⟨gap, hcut, hgap, hother, -⟩ := named?_eq_some_iff.mp hitem
  refine ⟨gap, ?_, hgap⟩
  rw [← List.append_assoc] at hcut
  rcases List.append_eq_append_iff.mp hcut with ⟨more, hpassed, hmore⟩ | ⟨more, rfl, hmore⟩
  · cases more with
    | nil => rw [hpassed, List.append_nil]
    | cons c more =>
      -- The later declaration would start inside the keyword or the gap.
      obtain ⟨gap', rfl, -⟩ := named?_eq_some_iff.mp hinput
      obtain rfl : 'f' = c := List.head_eq_of_cons_eq hmore
      obtain ⟨d, passed, rfl⟩ := List.exists_cons_of_ne_nil hne
      have htail : 'n' :: gap = passed ++ 'f' :: more := List.tail_eq_of_cons_eq hpassed
      have hmem : 'f' ∈ 'n' :: gap := by simp [htail]
      have hblank := isBlank_of_mem_gap hgap ((List.mem_cons.mp hmem).resolve_left (by decide))
      exact absurd hblank (by decide)
  · cases more with
    | nil => rw [List.append_nil]
    | cons c more =>
      -- The later declaration would start inside the name, where no word starts.
      have hbegins : c :: more <+: other := by
        refine List.prefix_of_prefix_length_le ⟨_, hmore.symm⟩ ⟨_, rfl⟩ ?_
        have hlength := congrArg List.length hmore
        rw [List.length_append, List.length_append] at hlength
        omega
      have hne' := List.cons_ne_nil c more
      have hword := isWord_of_mem hother (hbegins.subset (List.getLast_mem hne'))
      rw [List.getLast?_append_of_ne_nil _ hne', List.getLast?_eq_some_getLast hne', wordStart,
        hword] at hstart
      cases hstart

/-- A declaration is found, or its keyword is found as the name of another function. -/
lemma mem_findAll_or_keyword {before : List Char} (hstart : wordStart before.getLast? = true)
    (hread : named? input = some (name, rest)) :
    ⟨before, name⟩ ∈ findAll wordStart named? (before ++ input) ∨
      ∃ earlier gap, before = earlier ++ (functionKeyword ++ gap) ∧ isGap gap = true ∧
        ⟨earlier, functionKeyword⟩ ∈ findAll wordStart named? (before ++ input) := by
  have hne : input ≠ [] := by
    rintro rfl
    cases hread
  rcases mem_findAll_or_covers hne hstart hread with
    hmem | ⟨earlier, passed, other, left, hmem, rfl, hpassed, hitem, hleft⟩
  · exact .inl hmem
  · rw [List.getLast?_append_of_ne_nil _ hpassed] at hstart
    obtain ⟨gap, rfl, hgap⟩ := keyword_of_reaches hread hitem hpassed hstart hleft
    obtain ⟨after, -, hkeyword⟩ := named?_keyword hgap hread
    rw [List.append_assoc, hkeyword] at hitem
    cases hitem
    exact .inr ⟨earlier, gap, rfl, hgap, hmem⟩

/-! ## All declarations of a line -/

lemma opens_of_mem_findAll {code : List Char} {found : Found (List Char)}
    (h : found ∈ findAll wordStart named? code) : Opens found.before := by
  induction hlength : found.before.length using Nat.strong_induction_on generalizing found with
  | _ length ih =>
    obtain ⟨input, rest, hcode, hstart, hread⟩ := read_of_mem_findAll h
    by_cases hkeyword : ∃ front gap, found.before = front ++ (functionKeyword ++ gap) ∧
        isGap gap = true ∧ wordStart front.getLast? = true
    · obtain ⟨front, gap, hbefore, hgap, hfront⟩ := hkeyword
      obtain ⟨after, hinput, hnamed⟩ := named?_keyword hgap hread
      have hcut : code = front ++ (functionKeyword ++ (gap ++ input)) := by
        rw [hcode, hbefore, List.append_assoc, List.append_assoc]
      rcases mem_findAll_or_keyword hfront hnamed with hmem | ⟨earlier, gap', rfl, hgap', hmem⟩
      · -- The keyword of the find would be the name of the one before it.
        have hlater : front.length < found.before.length := by
          simp [hbefore, functionKeyword]
        rw [hcut] at h
        have hle := length_le_of_mem_of_mem_findAll hnamed hmem h hlater
        simp only [hbefore, hinput, functionKeyword, List.length_append, List.length_cons,
          List.length_nil] at hle
        omega
      · rw [← hcut] at hmem
        have hshorter : earlier.length < length := by
          simp [← hlength, hbefore, functionKeyword]
        rw [hbefore, List.append_assoc, List.append_assoc]
        exact .third (ih _ hshorter hmem rfl) hgap' hgap
    · refine .first hstart fun front gap hbefore hgap => Bool.eq_false_iff.mpr fun hfront => ?_
      exact hkeyword ⟨front, gap, hbefore, hgap, hfront⟩

/-- Where a keyword opens a declaration, the declaration is found. -/
lemma mem_findAll_of_opens {before : List Char} (h : Opens before)
    (hread : named? input = some (name, rest)) :
    ⟨before, name⟩ ∈ findAll wordStart named? (before ++ input) := by
  induction h generalizing input name rest with
  | first hstart hfirst =>
    rcases mem_findAll_or_keyword hstart hread with hmem | ⟨earlier, gap, rfl, hgap, hmem⟩
    · exact hmem
    · obtain ⟨-, -, -, hearlier, -⟩ := read_of_mem_findAll hmem
      rw [hfirst earlier gap rfl hgap] at hearlier
      cases hearlier
  | @third before gap gap' hbefore hgap hgap' ih =>
    have hstart := wordStart_gap (before ++ (functionKeyword ++ (gap ++ functionKeyword))) hgap'
    simp only [List.append_assoc] at hstart
    rcases mem_findAll_or_keyword hstart hread with hmem | ⟨earlier, gap'', hcut, hgap'', hmem⟩
    · exact hmem
    · -- The second keyword is the name of the first, and nothing is found at it.
      obtain ⟨_, -, hsecond⟩ := named?_keyword hgap' hread
      obtain ⟨after, hafter, hnamed⟩ := named?_keyword hgap hsecond
      obtain rfl : gap' ++ input = after := List.append_cancel_left hafter
      have hfirst := ih hnamed
      have hearlier : before ++ (functionKeyword ++ gap) = earlier :=
        append_keyword_inj hgap' hgap'' (by simpa only [List.append_assoc] using hcut)
      subst hearlier
      simp only [List.append_assoc] at hmem hfirst
      have hle := length_le_of_mem_of_mem_findAll hnamed hfirst hmem (by simp [functionKeyword])
      simp only [functionKeyword, List.length_append, List.length_cons, List.length_nil] at hle
      omega

/-- **A line declares what its code names**, and nothing else. -/
lemma declares_iff_names {name : String} {line : List Char} :
    declares name line = true ↔ Names (scrubLine line) name.toList := by
  rw [declares, List.any_eq_true]
  constructor
  · rintro ⟨found, hfound, hname⟩
    obtain ⟨input, rest, hcode, -, hread⟩ := read_of_mem_findAll hfound
    obtain ⟨gap, rfl, hgap, hisName, hstop⟩ := named?_eq_some_iff.mp hread
    have hvalue : found.value = name.toList := by
      rw [← beq_iff_eq.mp hname, String.toList_ofList]
    rw [hvalue] at hcode hisName
    exact ⟨found.before, gap, rest, hcode, opens_of_mem_findAll hfound, hgap, hisName, hstop⟩
  · rintro ⟨before, gap, after, hcode, hopens, hgap, hisName, hstop⟩
    have hread := named?_eq_some_iff.mpr ⟨gap, rfl, hgap, hisName, hstop⟩
    refine ⟨⟨before, name.toList⟩, ?_, by simp⟩
    rw [hcode]
    exact mem_findAll_of_opens hopens hread

/-- The third keyword declares a function, and the second is the name of one. -/
example : ["fn", "f", "g"].map (declares · "fn fn fn f".toList) = [true, true, false] := by
  decide +kernel

end LanguageServer.FunctionLine
