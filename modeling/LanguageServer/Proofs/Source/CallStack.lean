import Mathlib.Data.List.Induction
import Mathlib.Tactic.Common
import LanguageServer.Proofs.Source.CallSite
import LanguageServer.Proofs.Text.Measure

/-!
# The call around the cursor, read forwards

The call around the cursor is found by going back over the scrubbed text with a single count of the
groups that were entered.  A reader who goes forwards keeps the open parentheses on a stack: an
opening parenthesis is put on it, a closing one takes the innermost away or is left over, and a
comma counts for the innermost (`openAfter`).

The two agree on every text, also where parentheses are left over.  Going back with `depth` groups
entered arrives at the parenthesis that lies `depth` below the top of the stack, and it passes the
commas of that one alone (`goBack_reverse`): those above it on the stack are the groups that are
entered, so their commas do not count.

The called function is likewise said without the two runs of the search: it is the longest run of
lookup characters that ends before the parenthesis, less the blanks in between (`IsCallee`), and a
text has exactly one such run (`isCallee_iff`).
-/

namespace LanguageServer.CallSite

open Text Source

/-! ## The stack of open parentheses -/

/-- A parenthesis that is still open. -/
structure OpenParen where
  /-- The number of characters before it. -/
  position : Nat
  /-- The number of commas that were read for it so far. -/
  commas : Nat
deriving DecidableEq, Repr

/-- The parenthesis with one more comma. -/
def OpenParen.withComma (paren : OpenParen) : OpenParen :=
  { paren with commas := paren.commas + 1 }

/-- The open parentheses, the innermost first, after the character at the position was read. -/
def openNext (stack : List OpenParen) (position : Nat) (c : Char) : List OpenParen :=
  if c = '(' then ⟨position, 0⟩ :: stack
  else if c = ')' then stack.tail
  else if c = ',' then stack.modifyHead OpenParen.withComma
  else stack

/-- The parentheses that are open at the end of the text, the innermost first. -/
def openAfter (cs : List Char) : List OpenParen :=
  cs.zipIdx.foldl (fun stack entry => openNext stack entry.2 entry.1) []

lemma openAfter_append_singleton (cs : List Char) (c : Char) :
    openAfter (cs ++ [c]) = openNext (openAfter cs) cs.length c := by
  simp [openAfter, List.zipIdx_append]

lemma openNext_other {c : Char} (hopen : c ≠ '(') (hclose : c ≠ ')') (hcomma : c ≠ ',')
    (stack : List OpenParen) (position : Nat) : openNext stack position c = stack := by
  rw [openNext, if_neg hopen, if_neg hclose, if_neg hcomma]

/-- What is on the stack after a character is the character itself, or was there before up to its
commas. -/
lemma position_openNext {stack : List OpenParen} {position : Nat} {c : Char} {paren : OpenParen}
    (h : paren ∈ openNext stack position c) :
    paren.position = position ∨ ∃ earlier ∈ stack, paren.position = earlier.position := by
  unfold openNext at h
  split at h
  · rcases List.mem_cons.mp h with rfl | h
    · exact Or.inl rfl
    · exact Or.inr ⟨paren, h, rfl⟩
  · split at h
    · exact Or.inr ⟨paren, List.mem_of_mem_tail h, rfl⟩
    · split at h
      · cases stack with
        | nil => cases h
        | cons top rest =>
          rcases List.mem_cons.mp h with rfl | h
          · exact Or.inr ⟨top, List.mem_cons_self, rfl⟩
          · exact Or.inr ⟨paren, List.mem_cons_of_mem top h, rfl⟩
      · exact Or.inr ⟨paren, h, rfl⟩

lemma position_lt_length {cs : List Char} {paren : OpenParen} (h : paren ∈ openAfter cs) :
    paren.position < cs.length := by
  induction cs using List.reverseRecOn generalizing paren with
  | nil => cases h
  | append_singleton cs c ih =>
    rw [openAfter_append_singleton] at h
    rw [List.length_append, List.length_singleton]
    rcases position_openNext h with hnew | ⟨earlier, hearlier, hsame⟩
    · omega
    · have hbefore := ih hearlier
      omega

/-! ## Backwards and forwards -/

/-- What going back tells of an open parenthesis of the text, with the commas that were passed
already: the arguments passed, and the text before the parenthesis, last character first. -/
def OpenParen.reached (cs : List Char) (commas : Nat) (paren : OpenParen) : Nat × List Char :=
  (commas + paren.commas, (cs.take paren.position).reverse)

lemma reached_withComma (cs : List Char) (commas : Nat) :
    OpenParen.reached cs commas ∘ OpenParen.withComma = OpenParen.reached cs (commas + 1) := by
  funext paren
  simp only [OpenParen.reached, OpenParen.withComma, Function.comp_apply, Prod.mk.injEq, and_true]
  omega

lemma map_reached_append (cs : List Char) (c : Char) (depth commas : Nat) :
    (openAfter cs)[depth]?.map (OpenParen.reached (cs ++ [c]) commas) =
      (openAfter cs)[depth]?.map (OpenParen.reached cs commas) := by
  refine Option.map_congr fun paren hparen => ?_
  have hposition := position_lt_length (List.mem_of_getElem? hparen)
  rw [OpenParen.reached, OpenParen.reached, List.take_append_of_le_length hposition.le]

/-- **Going back arrives where the stack says**: with `depth` groups entered, at the parenthesis
that lies `depth` below the innermost one. -/
lemma goBack_reverse (cs : List Char) (depth commas : Nat) :
    goBack depth commas cs.reverse =
      (openAfter cs)[depth]?.map (OpenParen.reached cs commas) := by
  -- The last character is the first one that is met on the way back.
  induction cs using List.reverseRecOn generalizing depth commas with
  | nil => rw [List.reverse_nil, goBack]; rfl
  | append_singleton cs c ih =>
    rw [List.reverse_append, List.reverse_singleton, List.singleton_append,
      openAfter_append_singleton]
    by_cases hopen : c = '('
    · subst hopen
      rw [openNext, if_pos rfl]
      cases depth with
      | zero => simp [goBack, OpenParen.reached]
      | succ depth => rw [goBack, ih, List.getElem?_cons_succ, map_reached_append]
    · by_cases hclose : c = ')'
      · subst hclose
        rw [openNext, if_neg hopen, if_pos rfl, goBack, ih, List.getElem?_tail, map_reached_append]
      · by_cases hcomma : c = ','
        · subst hcomma
          rw [openNext, if_neg hopen, if_neg hclose, if_pos rfl, List.getElem?_modifyHead]
          cases depth with
          | zero =>
            rw [if_pos rfl, Option.map_map, reached_withComma, map_reached_append, goBack, ih]
          | succ depth =>
            rw [if_neg (Nat.succ_ne_zero depth), map_reached_append, ← ih]
            exact goBack_other hopen hclose (by omega) commas _
        · rw [openNext_other hopen hclose hcomma, map_reached_append, ← ih]
          exact goBack_other hopen hclose (fun _ => hcomma) commas _

/-! ## The called function -/

/-- The name stands at the end of the text, up to blanks: it is the longest run of lookup characters
that ends where the blanks begin.  It may be empty. -/
def IsCallee (before name : List Char) : Prop :=
  ∃ lead blanks, before = lead ++ name ++ blanks ∧
    (∀ c ∈ blanks, isPlainBlank c = true) ∧
    (∀ c ∈ (lead ++ name).getLast?, isPlainBlank c = false) ∧
    (∀ c ∈ name, isLookupPart c = true) ∧
    ∀ c ∈ lead.getLast?, isLookupPart c = false

/-- **There is exactly one callee**, and it is the one that the search takes. -/
lemma isCallee_iff {before name : List Char} :
    IsCallee before name ↔ name = callee before.reverse := by
  have hcallee {lead name blanks : List Char} (hblanks : ∀ c ∈ blanks, isPlainBlank c = true)
      (hlast : ∀ c ∈ (lead ++ name).getLast?, isPlainBlank c = false)
      (hname : ∀ c ∈ name, isLookupPart c = true)
      (hlead : ∀ c ∈ lead.getLast?, isLookupPart c = false) :
      callee (lead ++ name ++ blanks).reverse = name := by
    rw [callee, dropWhile_reverse_append hblanks hlast, takeWhile_reverse_append hname hlead,
      List.reverse_reverse]
  constructor
  · rintro ⟨lead, blanks, rfl, hblanks, hlast, hname, hlead⟩
    exact (hcallee hblanks hlast hname hlead).symm
  · rintro rfl
    obtain ⟨front, blanks, rfl, hblanks, hlast⟩ := exists_run isPlainBlank before
    obtain ⟨lead, name, rfl, hname, hlead⟩ := exists_run isLookupPart front
    rw [hcallee hblanks hlast hname hlead]
    exact ⟨lead, blanks, rfl, hblanks, hlast, hname, hlead⟩

/-! ## Both readings -/

/-- The call at the end of a text is that of the innermost open parenthesis. -/
lemma atEnd?_eq_top (text : List Char) :
    atEnd? text = (openAfter (scrub text)).head?.map fun top =>
      ⟨String.ofList (callee ((scrub text).take top.position).reverse), top.commas⟩ := by
  rw [atEnd?, goBack_reverse, Option.map_map, List.head?_eq_getElem?]
  refine Option.map_congr fun top _ => ?_
  rw [Function.comp_apply, OpenParen.reached, Nat.zero_add]

/-- **The call around the cursor is the innermost parenthesis that a reader of the scrubbed text
before the cursor has open.**  The cursor is taken at the end of the text when it lies past it, and
at the beginning of a character when it lies inside.  Without an open parenthesis there is no call;
otherwise the argument is the number of commas read for the innermost one, and the function is the
longest run of lookup characters before it, less blanks. -/
theorem locate?_eq_innermost (text : String) (offset : Nat) :
    ∃ before after, text.toList = before ++ after ∧ byteLength before ≤ offset ∧
      (∀ c ∈ after.head?, offset < byteLength before + c.utf8Size) ∧
      (openAfter (scrub before) = [] → locate? text offset = none) ∧
      ∀ top outer, openAfter (scrub before) = top :: outer →
        ∃ name, IsCallee ((scrub before).take top.position) name ∧
          locate? text offset = some ⟨String.ofList name, top.commas⟩ := by
  refine ⟨takeBytes offset text.toList, dropBytes offset text.toList,
    (takeBytes_append_dropBytes offset text.toList).symm, byteLength_takeBytes_le _ _,
    lt_of_mem_head?_dropBytes _ _, ?_, ?_⟩
  · intro hnone
    rw [locate?, atEnd?_eq_top, hnone]
    rfl
  · intro top outer htop
    refine ⟨_, isCallee_iff.mpr rfl, ?_⟩
    rw [locate?, atEnd?_eq_top, htop]
    rfl

end LanguageServer.CallSite
