import Mathlib.Tactic.Common
import LanguageServer.Proofs.Source.CallSite
import LanguageServer.Proofs.Text.Measure

/-!
# The call around a cursor in a literal

Parentheses and commas in a string literal belong to no call, and scrubbing blanks them out.  Only
the text before the cursor is scrubbed, though.  Where the cursor stands in a literal, the closing
quote lies behind it, so the literal is not known to be closed and is left as it is
(`Literal.scrub_before`): what stands in it before the cursor is read as code.

For some contents this makes no difference.  `Literal.passes_iff` says for which: the contents
before the cursor are passed over, whatever stands before the literal, exactly when they are closed
in themselves, with their parentheses paired and commas inside them.  Any other contents are
mistaken for a part of the call (`Literal.may_not_pass`).
-/

namespace LanguageServer.CallSite

/-! ## Texts that are passed over -/

lemma commas_le_of_goBack {depth commas passed : Nat} {cs before : List Char}
    (h : goBack depth commas cs = some (passed, before)) : commas ≤ passed := by
  fun_induction goBack depth commas cs with
  | case1 => cases h
  | case2 depth commas cs ih => exact ih h
  | case3 commas cs =>
    cases h
    exact Nat.le_refl _
  | case4 commas cs depth ih => exact ih h
  | case5 commas cs ih => exact (Nat.le_succ commas).trans (ih h)
  | case6 depth commas c cs _ _ _ _ ih => exact ih h

lemma isClosedFrom_other {depth : Nat} {c : Char} (hopen : c ≠ '(') (hclose : c ≠ ')')
    (hcomma : depth = 0 → c ≠ ',') (cs : List Char) :
    isClosedFrom depth (c :: cs) = isClosedFrom depth cs := by
  cases depth with
  | zero => rw [isClosedFrom] <;> simp_all
  | succ depth => rw [isClosedFrom] <;> simp_all

/-- **A text that is passed over both where there is no call and right after a parenthesis** is
closed, together with what closes the groups that were entered after it. -/
lemma isClosedFrom_of_goBack {depth : Nat} {cs before after : List Char}
    (hnone : goBack depth 0 (cs ++ ['"']) = none)
    (hfirst : goBack depth 0 (cs ++ ['"', '(']) = some (0, before))
    (hafter : isClosedFrom depth after = true) : isClosedFrom 0 (cs.reverse ++ after) = true := by
  -- `cs` is read backwards, so what was read of it moves to the front of `after`.
  induction cs generalizing depth after with
  | nil =>
    cases depth with
    | zero => exact hafter
    | succ depth =>
      cases hfirst
  | cons c cs ih =>
    rw [List.reverse_cons, List.append_assoc, List.singleton_append]
    by_cases hclose : c = ')'
    · subst hclose
      rw [List.cons_append, goBack] at hnone hfirst
      exact ih hnone hfirst (by rwa [isClosedFrom])
    · by_cases hopen : c = '('
      · subst hopen
        cases depth with
        | zero => cases hnone
        | succ depth =>
          rw [List.cons_append, goBack] at hnone hfirst
          exact ih hnone hfirst (by rwa [isClosedFrom])
      · by_cases hcomma : depth = 0 ∧ c = ','
        · -- The comma would count as an argument.
          obtain ⟨rfl, rfl⟩ := hcomma
          rw [List.cons_append, goBack] at hfirst
          have hpassed := commas_le_of_goBack hfirst
          omega
        · have hother : depth = 0 → c ≠ ',' := fun hdepth hc => hcomma ⟨hdepth, hc⟩
          rw [List.cons_append, goBack_other hopen hclose hother] at hnone hfirst
          exact ih hnone hfirst (by rwa [isClosedFrom_other hopen hclose hother])

end LanguageServer.CallSite

namespace LanguageServer.Source

open Text

/-! ## Where literals begin and end -/

/-- Does a scan of a line, which stands in the region before the text, stand in code after it? -/
def endsInCode : Region → List Char → Bool
  | .code, [] => true
  | .literal, [] => false
  | .code, '/' :: '/' :: _ => false
  | .code, '"' :: cs => endsInCode .literal cs
  | .code, _ :: cs => endsInCode .code cs
  | .literal, '"' :: cs => endsInCode .code cs
  | .literal, '\\' :: _ :: cs => endsInCode .literal cs
  | .literal, _ :: cs => endsInCode .literal cs

/-- Can the text stand between the quotes of a literal: is every quote in it escaped, and does no
backslash at its end escape the closing quote? -/
def isContents : List Char → Bool
  | [] => true
  | '"' :: _ => false
  | ['\\'] => false
  | '\\' :: _ :: cs => isContents cs
  | _ :: cs => isContents cs

lemma closes_cons {c : Char} (hescape : c ≠ '\\') (cs : List Char) :
    closes (c :: cs) = (c == '"' || closes cs) := by
  rw [closes]
  exact fun _ _ hc => absurd hc hescape

lemma endsInCode_literal_cons {c : Char} (hquote : c ≠ '"') (hescape : c ≠ '\\')
    (cs : List Char) : endsInCode .literal (c :: cs) = endsInCode .literal cs := by
  rw [endsInCode]
  · exact hquote
  · exact fun _ _ hc => absurd hc hescape

lemma closes_of_endsInCode {cs : List Char} (h : endsInCode .literal cs = true) (ds : List Char) :
    closes (cs ++ ds) = true := by
  fun_induction closes cs with
  | case1 => cases h
  | case2 c cs ih =>
    rw [List.cons_append, List.cons_append, closes]
    exact ih h
  | case3 c cs hlone ih =>
    have hescape : c ≠ '\\' := by
      rintro rfl
      cases cs with
      | nil => simp [endsInCode] at h
      | cons d cs => exact hlone d cs rfl rfl
    rw [List.cons_append, closes_cons hescape, Bool.or_eq_true, beq_iff_eq]
    by_cases hquote : c = '"'
    · exact Or.inl hquote
    · rw [endsInCode_literal_cons hquote hescape] at h
      exact Or.inr (ih h)

lemma closes_of_isContents {cs ds : List Char} (h : isContents (cs ++ ds) = true) :
    closes cs = false := by
  fun_induction closes cs with
  | case1 => rfl
  | case2 c cs ih => exact ih (by simpa [isContents] using h)
  | case3 c cs hlone ih =>
    have hquote : c ≠ '"' := by
      rintro rfl
      simp [isContents] at h
    by_cases hescape : c = '\\'
    · -- The backslash is the last character: it escapes what follows the contents so far.
      cases cs with
      | nil => rw [hescape]; rfl
      | cons d cs => exact absurd rfl (hlone d cs hescape)
    · rw [List.cons_append, isContents] at h
      · rw [ih h, Bool.or_false, beq_eq_false_iff_ne]
        exact hquote
      · exact hquote
      · exact fun hc => absurd hc hescape
      · exact fun _ _ hc => absurd hc hescape

/-- **A literal that is not closed is left as it is**, in whatever line it begins. -/
lemma scrubFrom_open {region : Region} {cs inner : List Char} (h : endsInCode region cs = true)
    (hinner : closes inner = false) :
    scrubFrom region (cs ++ '"' :: inner) = scrubFrom region cs ++ '"' :: inner := by
  fun_induction endsInCode region cs with
  | case1 =>
    rw [List.nil_append, scrubFrom, scrubFrom, if_neg (by simp [hinner]), List.nil_append]
  | case2 => cases h
  | case3 => cases h
  | case4 cs ih =>
    have hclosed := closes_of_endsInCode h []
    rw [List.append_nil] at hclosed
    rw [List.cons_append, scrubFrom, scrubFrom, if_pos (closes_of_endsInCode h _), if_pos hclosed,
      ih h, List.cons_append]
  | case5 c cs hcomment hquote ih =>
    rw [List.cons_append, scrubFrom, scrubFrom, ih h, List.cons_append]
    · exact hcomment
    · exact hquote
    · intro ds hc hds
      cases cs with
      | nil => cases hds
      | cons d cs => exact hcomment cs hc (congrArg (· :: cs) (List.cons.inj hds).1)
    · exact hquote
  | case6 cs ih => rw [List.cons_append, scrubFrom, scrubFrom, ih h, List.cons_append]
  | case7 c cs ih =>
    rw [List.cons_append, List.cons_append, scrubFrom, scrubFrom, ih h, List.append_assoc]
  | case8 c cs hquote hlone ih =>
    have hescape : c ≠ '\\' := by
      rintro rfl
      cases cs with
      | nil => cases h
      | cons d cs => exact hlone d cs rfl rfl
    rw [List.cons_append, scrubFrom, scrubFrom, ih h, List.append_assoc]
    · exact hquote
    · exact fun _ _ hc => absurd hc hescape
    · exact hquote
    · exact fun _ _ hc => absurd hc hescape

lemma scrub_line {line : List Char} (hline : '\n' ∉ line) : scrub line = scrubLine line := by
  by_cases hempty : line = []
  · rw [hempty]
    rfl
  · exact scrub_unended hline hempty

/-! ## Literals of a text -/

/-- A literal of a text that is closed on its line and begins in code. -/
structure Literal where
  /-- The lines before that of the literal. -/
  earlier : List Char
  /-- The line of the literal, up to its opening quote. -/
  front : List Char
  contents : List Char
  /-- What follows the closing quote. -/
  rest : List Char
  ended : Ended earlier
  front_line : '\n' ∉ front
  front_code : endsInCode .code front = true
  contents_line : '\n' ∉ contents
  contents_open : isContents contents = true

namespace Literal

open CallSite

/-- The text with the literal. -/
def text (literal : Literal) : String :=
  String.ofList
    (literal.earlier ++ literal.front ++ '"' :: (literal.contents ++ '"' :: literal.rest))

/-- The byte offset of the opening quote. -/
def quote (literal : Literal) : Nat :=
  byteLength (literal.earlier ++ literal.front)

/-- The contents before a cursor that stands the given number of bytes after the opening quote. -/
def before (literal : Literal) (bytes : Nat) : List Char :=
  takeBytes bytes literal.contents

variable {literal : Literal} {bytes : Nat}

lemma takeBytes_quote (literal : Literal) :
    takeBytes literal.quote literal.text.toList = literal.earlier ++ literal.front := by
  rw [text, String.toList_ofList, quote, takeBytes_byteLength_append]

lemma takeBytes_inside (hbytes : bytes ≤ byteLength literal.contents) :
    takeBytes (literal.quote + 1 + bytes) literal.text.toList =
      literal.earlier ++ literal.front ++ '"' :: literal.before bytes := by
  have hquote : literal.quote + 1 + bytes =
      byteLength (literal.earlier ++ literal.front ++ ['"']) + bytes := by
    rw [byteLength_append (literal.earlier ++ literal.front), quote]
    rfl
  rw [text, String.toList_ofList, List.append_cons, hquote, takeBytes_add,
    takeBytes_append_of_le hbytes, before, List.append_assoc, List.singleton_append]

/-- **Before a cursor in a literal, the literal is left as it is.** -/
lemma scrub_before (literal : Literal) (bytes : Nat) :
    scrub (literal.earlier ++ literal.front ++ '"' :: literal.before bytes) =
      scrub (literal.earlier ++ literal.front) ++ '"' :: literal.before bytes := by
  have hcontents : literal.before bytes ++ dropBytes bytes literal.contents = literal.contents :=
    takeBytes_append_dropBytes bytes literal.contents
  have hopen : closes (literal.before bytes) = false := by
    have hall := literal.contents_open
    rw [← hcontents] at hall
    exact closes_of_isContents hall
  have hline : '\n' ∉ literal.front ++ '"' :: literal.before bytes := by
    have hbefore : '\n' ∉ literal.before bytes := by
      intro hmem
      refine literal.contents_line ?_
      rw [← hcontents]
      exact List.mem_append_left _ hmem
    simp [literal.front_line, hbefore]
  rw [List.append_assoc, Source.scrub_append literal.ended, Source.scrub_append literal.ended,
    scrub_line hline, scrub_line literal.front_line, List.append_assoc]
  exact congrArg _ (scrubFrom_open literal.front_code hopen)

lemma locate?_quote (literal : Literal) :
    locate? literal.text literal.quote = atEnd? (literal.earlier ++ literal.front) := by
  rw [locate?, takeBytes_quote]

lemma locate?_inside (hbytes : bytes ≤ byteLength literal.contents) :
    locate? literal.text (literal.quote + 1 + bytes) =
      (goBack 0 0 ((literal.before bytes).reverse ++
          '"' :: (scrub (literal.earlier ++ literal.front)).reverse)).map fun found =>
        ⟨String.ofList (callee found.2), found.1⟩ := by
  rw [locate?, takeBytes_inside hbytes, atEnd?, scrub_before, List.reverse_append,
    List.reverse_cons, List.append_assoc, List.singleton_append]

/-! ## Contents that are passed over -/

/-- The contents before the cursor do not count: the call is the one that is found at the opening
quote. -/
def Passes (literal : Literal) (bytes : Nat) : Prop :=
  locate? literal.text (literal.quote + 1 + bytes) = locate? literal.text literal.quote

lemma passes_of_isClosed (hbytes : bytes ≤ byteLength literal.contents)
    (hclosed : isClosed (literal.before bytes) = true) : literal.Passes bytes := by
  rw [Passes, locate?_inside hbytes, locate?_quote, atEnd?, goBack_isClosedFrom hclosed,
    goBack_other (by decide) (by decide) (by decide)]

/-- The literal with nothing before it but code on its own line. -/
def behind (literal : Literal) (front : List Char) (hline : '\n' ∉ front)
    (hcode : endsInCode .code front = true) : Literal :=
  { literal with
    earlier := []
    front := front
    ended := ended_nil
    front_line := hline
    front_code := hcode }

/-- Behind a line of code, going back over the contents must lead to the call of that line. -/
lemma passes_behind_iff {front : List Char} {hline : '\n' ∉ front}
    {hcode : endsInCode .code front = true} (hbytes : bytes ≤ byteLength literal.contents) :
    (literal.behind front hline hcode).Passes bytes ↔
      ((goBack 0 0 ((literal.before bytes).reverse ++ '"' :: (scrub front).reverse)).map
        fun found => (⟨String.ofList (callee found.2), found.1⟩ : CallSite)) = atEnd? front := by
  rw [Passes, @locate?_inside (literal.behind front hline hcode) bytes hbytes, locate?_quote]
  rfl

/-- Contents that are passed over behind every text are closed in themselves.  Two texts suffice:
none, and a parenthesis. -/
lemma isClosed_of_passes (hbytes : bytes ≤ byteLength literal.contents)
    (hpasses : ∀ other : Literal, other.contents = literal.contents → other.Passes bytes) :
    isClosed (literal.before bytes) = true := by
  have hbare := hpasses (literal.behind [] (by decide) (by decide)) rfl
  have hcall := hpasses (literal.behind ['('] (by decide) (by decide)) rfl
  rw [passes_behind_iff hbytes] at hbare hcall
  have hnone : goBack 0 0 ((literal.before bytes).reverse ++ ['"']) = none :=
    Option.map_eq_none_iff.mp hbare
  obtain ⟨⟨passed, lead⟩, hfirst, hsite⟩ := Option.map_eq_some_iff.mp hcall
  obtain rfl : passed = 0 := congrArg CallSite.argument hsite
  have hclosed := isClosedFrom_of_goBack hnone hfirst (show isClosedFrom 0 [] = true from rfl)
  rwa [List.reverse_reverse, List.append_nil] at hclosed

/-- **What stands in a literal before the cursor is passed over exactly when it is closed in
itself**: when its parentheses are paired and its commas inside them.  Otherwise the call that is
found depends on it for some text before the literal. -/
theorem passes_iff (literal : Literal) (bytes : Nat)
    (hbytes : bytes ≤ byteLength literal.contents) :
    isClosed (literal.before bytes) = true ↔
      ∀ other : Literal, other.contents = literal.contents → other.Passes bytes := by
  constructor
  · intro hclosed other hcontents
    rw [before, ← hcontents] at hclosed
    rw [← hcontents] at hbytes
    exact passes_of_isClosed hbytes hclosed
  · exact isClosed_of_passes hbytes

/-- A literal with the contents as the argument of a call. -/
def printed (contents : String) (hline : '\n' ∉ contents.toList)
    (hcontents : isContents contents.toList = true) : Literal where
  earlier := []
  front := "print(".toList
  contents := contents.toList
  rest := [')']
  ended := ended_nil
  front_line := by decide
  front_code := by decide
  contents_line := hline
  contents_open := hcontents

theorem passes_iff_call :
    (printed "f(a, b) c" (by decide) (by decide)).Passes 8 :=
  (passes_iff (printed "f(a, b) c" (by decide) (by decide)) 8 (by decide)).mp (by decide) _ rfl

/-- **A comma in a literal may count as an argument**, and a parenthesis in it may be taken for that
of a call. -/
theorem may_not_pass :
    (∃ (literal : Literal) (bytes : Nat), bytes ≤ byteLength literal.contents ∧
      locate? literal.text literal.quote = some ⟨"print", 0⟩ ∧
      locate? literal.text (literal.quote + 1 + bytes) = some ⟨"print", 1⟩) ∧
    ∃ (literal : Literal) (bytes : Nat), bytes ≤ byteLength literal.contents ∧
      locate? literal.text literal.quote = some ⟨"print", 0⟩ ∧
      locate? literal.text (literal.quote + 1 + bytes) = some ⟨"f", 0⟩ := by
  constructor
  · exact ⟨printed "a, b" (by decide) (by decide), 2, by decide, by decide, by decide⟩
  · exact ⟨printed "f(a)" (by decide) (by decide), 2, by decide, by decide, by decide⟩

end Literal

end LanguageServer.Source
