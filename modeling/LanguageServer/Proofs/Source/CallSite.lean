import Mathlib.Tactic.Common
import LanguageServer.Proofs.Source.Find
import LanguageServer.Proofs.Source.Scrub
import LanguageServer.Source.CallSite
import LanguageServer.Text.Split

/-!
# Arguments are counted as they are written

The call around the cursor is found by going back from the cursor.  Written forwards, a call is a
name, a parenthesis and arguments with commas between them, where an argument may hold calls of its
own: its parentheses are paired, and commas are inside them (`isClosed`).

Going back over such an argument leaves the search where it was (`goBack_isClosed`), so going back
over a list of them passes one argument for each comma between them (`goBack_arguments`), and what
is before the parenthesis is the name of the function (`atEnd?_of_scrub`).
-/

namespace LanguageServer.CallSite

open Text Source

/-- Does the text, after `depth` parentheses that are still open, close all of them and its own,
with commas only inside parentheses? -/
def isClosedFrom : Nat → List Char → Bool
  | depth, [] => depth == 0
  | depth, '(' :: cs => isClosedFrom (depth + 1) cs
  | 0, ')' :: _ => false
  | depth + 1, ')' :: cs => isClosedFrom depth cs
  | 0, ',' :: _ => false
  | depth, _ :: cs => isClosedFrom depth cs

/-- Is the text closed in itself, so that it can stand as one argument? -/
def isClosed (cs : List Char) : Bool :=
  isClosedFrom 0 cs

lemma goBack_other {depth : Nat} {c : Char} (hopen : c ≠ '(') (hclose : c ≠ ')')
    (hcomma : depth = 0 → c ≠ ',') (commas : Nat) (cs : List Char) :
    goBack depth commas (c :: cs) = goBack depth commas cs := by
  cases depth with
  | zero =>
    rw [goBack] <;> simp_all
  | succ depth =>
    rw [goBack] <;> simp_all

/-- Going back over the rest of an argument enters as many groups as were open before that rest. -/
lemma goBack_isClosedFrom {depth : Nat} {cs : List Char} (h : isClosedFrom depth cs = true)
    (commas : Nat) (before : List Char) :
    goBack 0 commas (cs.reverse ++ before) = goBack depth commas before := by
  fun_induction isClosedFrom depth cs generalizing before with
  | case1 depth =>
    have hdepth : depth = 0 := by simpa using h
    rw [hdepth, List.reverse_nil, List.nil_append]
  | case2 depth cs ih =>
    rw [List.reverse_cons, List.append_assoc, ih h, List.singleton_append, goBack]
  | case3 => cases h
  | case4 depth cs ih =>
    rw [List.reverse_cons, List.append_assoc, ih h, List.singleton_append, goBack]
  | case5 => cases h
  | case6 depth c cs hopen hzero hsucc hcomma ih =>
    have hclose : c ≠ ')' := by
      intro hc
      cases depth with
      | zero => exact hzero rfl hc
      | succ depth => exact hsucc depth rfl hc
    rw [List.reverse_cons, List.append_assoc, ih h, List.singleton_append,
      goBack_other hopen hclose hcomma]

lemma goBack_arguments {arguments : List (List Char)} (hne : arguments ≠ [])
    (h : ∀ argument ∈ arguments, isClosed argument = true) (commas : Nat) (before : List Char) :
    goBack 0 commas ((joinWith [','] arguments).reverse ++ before) =
      goBack 0 (commas + (arguments.length - 1)) before := by
  induction arguments generalizing commas before with
  | nil => exact absurd rfl hne
  | cons argument rest ih =>
    have hargument := h argument List.mem_cons_self
    cases rest with
    | nil => exact goBack_isClosedFrom hargument commas before
    | cons next rest =>
      have hrest := ih (by simp) fun other hother => h other (List.mem_cons_of_mem argument hother)
      have hlength : commas + ((next :: rest).length - 1) + 1 =
          commas + ((argument :: next :: rest).length - 1) := by
        simp only [List.length_cons]
        omega
      rw [joinWith, List.reverse_append, List.reverse_append, List.append_assoc, List.append_assoc,
        hrest, List.reverse_singleton, List.singleton_append, goBack,
        goBack_isClosedFrom hargument, hlength]

/-! ## The called function -/

lemma isPlainBlank_of_isLookupPart {c : Char} (h : isLookupPart c = true) :
    isPlainBlank c = false := by
  rw [Bool.eq_false_iff]
  intro hblank
  simp only [isPlainBlank, Bool.or_eq_true, beq_iff_eq] at hblank
  rcases hblank with (((rfl | rfl) | rfl) | rfl) | rfl <;> exact absurd h (by decide)

lemma callee_name {before name : List Char} (hne : name ≠ [])
    (hname : ∀ c ∈ name, isLookupPart c = true)
    (hbefore : ∀ c ∈ before.getLast?, isLookupPart c = false) :
    callee (before ++ name).reverse = name := by
  obtain ⟨last, lead, hlast⟩ := List.exists_cons_of_ne_nil (List.reverse_ne_nil_iff.mpr hne)
  have hblank : isPlainBlank last = false :=
    isPlainBlank_of_isLookupPart (hname last (List.mem_reverse.mp (by simp [hlast])))
  have hkeep : (before ++ name).reverse.dropWhile isPlainBlank = (before ++ name).reverse := by
    rw [List.reverse_append, hlast, List.cons_append, List.dropWhile_cons_of_neg (by simp [hblank])]
  rw [callee, hkeep, takeWhile_reverse_append hname hbefore, List.reverse_reverse]

/-- **At the end of a call that is being written, the call is found with the number of its complete
arguments.** -/
lemma atEnd?_of_scrub {text before name : List Char} {arguments : List (List Char)}
    (hne : name ≠ [])
    (hname : ∀ c ∈ name, isLookupPart c = true)
    (hbefore : ∀ c ∈ before.getLast?, isLookupPart c = false) (harguments : arguments ≠ [])
    (hclosed : ∀ argument ∈ arguments, isClosed argument = true)
    (hscrub : scrub text = before ++ name ++ '(' :: joinWith [','] arguments) :
    atEnd? text = some ⟨String.ofList name, arguments.length - 1⟩ := by
  have hback : (before ++ name ++ '(' :: joinWith [','] arguments).reverse =
      (joinWith [','] arguments).reverse ++ '(' :: (before ++ name).reverse := by
    simp
  rw [atEnd?, hscrub, hback, goBack_arguments harguments hclosed, goBack, Option.map_some]
  simp only [callee_name hne hname hbefore, Nat.zero_add]

end LanguageServer.CallSite
