import Mathlib.Data.List.Chain
import LanguageServer.Proofs.Source.Scrub

/-!
# What the characters of a source text belong to

Scrubbing goes over a line once and forgets why it blanked a character.  Here the same scan leaves a
mark on each character instead: it belongs to the code, to the contents of a closed literal or to a
comment (`markLine`, `markText`).  The quotes of a literal are code, and so is a literal that is not
closed.

Nothing is lost (`map_fst_markText`), and the scrubbed text is what is left when every character
that is not code is blanked (`flatMap_visible_markText`).  A blank stands for nothing but itself, so
a character of the scrubbed text that is no space has one place in the text as written, as far from
its beginning (`exists_of_flatMap_visible`).

Marks come in runs.  The contents of a literal stand between two quotes and a comment begins with a
slash, within one text as well as over the end of a line; `Adjoins` says so of two neighbours.
-/

namespace LanguageServer.Source

open Text

/-- What a character of a source text belongs to. -/
inductive Mark where
  | code
  /-- Between the quotes of a closed literal. -/
  | literal
  | comment
deriving DecidableEq, Repr

/-- The rest of a line with its marks, for a scan that stands in the given region. -/
def markFrom : Region → List Char → List (Char × Mark)
  | _, [] => []
  | .code, '/' :: '/' :: cs => ('/' :: '/' :: cs).map (·, .comment)
  | .code, '"' :: cs =>
    if closes cs then ('"', .code) :: markFrom .literal cs else ('"' :: cs).map (·, .code)
  | .code, c :: cs => (c, .code) :: markFrom .code cs
  | .literal, '"' :: cs => ('"', .code) :: markFrom .code cs
  | .literal, '\\' :: c :: cs => ('\\', .literal) :: (c, .literal) :: markFrom .literal cs
  | .literal, c :: cs => (c, .literal) :: markFrom .literal cs

/-- The line with its marks. -/
def markLine (line : List Char) : List (Char × Mark) :=
  markFrom .code line

/-- The text with its marks.  Line terminators are code. -/
def markText (text : List Char) : List (Char × Mark) :=
  (pieces text).flatMap fun piece =>
    markLine (splitTerminator piece).1 ++ (splitTerminator piece).2.map (·, .code)

/-- What scrubbing leaves of a character with its mark. -/
def visible (marked : Char × Mark) : List Char :=
  if marked.2 = .code then [marked.1] else blanked [marked.1]

@[simp] lemma visible_code (c : Char) : visible (c, .code) = [c] := rfl

@[simp] lemma visible_literal (c : Char) : visible (c, .literal) = blanked [c] := rfl

@[simp] lemma visible_comment (c : Char) : visible (c, .comment) = blanked [c] := rfl

/-! ## Marks and scrubbing -/

lemma map_fst_marked {α : Type} (mark : Mark) (cs : List α) :
    (cs.map (·, mark)).map Prod.fst = cs := by
  rw [List.map_map]
  exact List.map_id cs

lemma flatMap_visible_code (cs : List Char) : (cs.map (·, Mark.code)).flatMap visible = cs := by
  induction cs with
  | nil => rfl
  | cons c cs ih => rw [List.map_cons, List.flatMap_cons, ih, visible_code, List.singleton_append]

lemma flatMap_visible_comment (cs : List Char) :
    (cs.map (·, Mark.comment)).flatMap visible = blanked cs := by
  induction cs with
  | nil => rfl
  | cons c cs ih => rw [List.map_cons, List.flatMap_cons, ih, visible_comment, ← blanked_cons]

lemma map_fst_markFrom (region : Region) (cs : List Char) :
    (markFrom region cs).map Prod.fst = cs := by
  fun_induction markFrom region cs with
  | case1 => rfl
  | case2 cs => exact map_fst_marked .comment _
  | case3 cs hcloses ih => rw [List.map_cons, ih]
  | case4 cs hcloses => exact map_fst_marked .code _
  | case5 c cs _ _ ih => rw [List.map_cons, ih]
  | case6 cs ih => rw [List.map_cons, ih]
  | case7 c cs ih => rw [List.map_cons, List.map_cons, ih]
  | case8 c cs _ _ ih => rw [List.map_cons, ih]

/-- The scrubbed line is what is visible of the line. -/
lemma flatMap_visible_markFrom (region : Region) (cs : List Char) :
    (markFrom region cs).flatMap visible = scrubFrom region cs := by
  fun_induction markFrom region cs with
  | case1 => rw [scrubFrom]; rfl
  | case2 cs => rw [flatMap_visible_comment, scrubFrom]
  | case3 cs hcloses ih =>
    rw [List.flatMap_cons, ih, visible_code, scrubFrom, if_pos hcloses, List.singleton_append]
  | case4 cs hcloses => rw [flatMap_visible_code, scrubFrom, if_neg hcloses]
  | case5 c cs hcomment hquote ih =>
    rw [List.flatMap_cons, ih, visible_code, scrubFrom, List.singleton_append]
    · exact hcomment
    · exact hquote
  | case6 cs ih => rw [List.flatMap_cons, ih, visible_code, scrubFrom, List.singleton_append]
  | case7 c cs ih =>
    rw [List.flatMap_cons, List.flatMap_cons, ih, visible_literal, visible_literal, scrubFrom,
      blanked_cons '\\' [c], List.append_assoc]
  | case8 c cs hquote hescape ih =>
    rw [List.flatMap_cons, ih, visible_literal, scrubFrom]
    · exact hquote
    · exact hescape

lemma map_fst_markLine (line : List Char) : (markLine line).map Prod.fst = line :=
  map_fst_markFrom .code line

lemma flatMap_visible_markLine (line : List Char) :
    (markLine line).flatMap visible = scrubLine line :=
  flatMap_visible_markFrom .code line

/-- Nothing is lost or moved when a text is marked. -/
lemma map_fst_markText (text : List Char) : (markText text).map Prod.fst = text := by
  rw [markText, List.map_flatMap]
  simp only [List.map_append, map_fst_markLine, map_fst_marked, splitTerminator_append]
  rw [List.flatMap_id', flatten_pieces]

/-- **The scrubbed text is what is visible of the text.** -/
lemma flatMap_visible_markText (text : List Char) :
    (markText text).flatMap visible = scrub text := by
  rw [markText, List.flatMap_assoc, scrub]
  simp only [List.flatMap_append, flatMap_visible_markLine, flatMap_visible_code]

/-! ## Places -/

/-- What is visible of a text takes as many bytes as the text. -/
lemma byteLength_flatMap_visible (marked : List (Char × Mark)) :
    byteLength (marked.flatMap visible) = byteLength (marked.map Prod.fst) := by
  induction marked with
  | nil => rfl
  | cons entry marked ih =>
    have hentry : byteLength (visible entry) = entry.1.utf8Size := by
      unfold visible
      split
      · rfl
      · exact byteLength_blanked [entry.1]
    rw [List.flatMap_cons, byteLength_append, ih, hentry, List.map_cons, byteLength_cons]

/-- **What is visible and no space is code**, and stands as far from the beginning as it is seen. -/
lemma exists_of_flatMap_visible {marked : List (Char × Mark)} {before after : List Char} {c : Char}
    (hc : c ≠ ' ') (h : marked.flatMap visible = before ++ c :: after) :
    ∃ front back, marked = front ++ (c, .code) :: back ∧ front.flatMap visible = before ∧
      back.flatMap visible = after := by
  induction marked generalizing before with
  | nil => simp at h
  | cons entry marked ih =>
    obtain ⟨d, mark⟩ := entry
    rw [List.flatMap_cons] at h
    rcases List.append_eq_append_iff.mp h with ⟨more, hbefore, hrest⟩ | ⟨more, hentry, hafter⟩
    · -- The entry lies before the character.
      obtain ⟨front, back, rfl, hfront, hback⟩ := ih hrest
      exact ⟨(d, mark) :: front, back, rfl, by rw [List.flatMap_cons, hfront, hbefore], hback⟩
    · cases more with
      | nil =>
        obtain ⟨front, back, rfl, hfront, hback⟩ := @ih [] hafter.symm
        refine ⟨(d, mark) :: front, back, rfl, ?_, hback⟩
        rw [List.flatMap_cons, hfront, hentry, List.append_nil, List.append_nil]
      | cons e more =>
        obtain ⟨rfl, hmore⟩ := List.cons.inj hafter
        by_cases hmark : mark = .code
        · -- The entry is the character.
          subst hmark
          cases before with
          | nil =>
            obtain ⟨rfl, rfl⟩ := List.cons.inj hentry
            exact ⟨[], marked, rfl, rfl, hmore.symm⟩
          | cons f before => simp at hentry
        · have hspace : c ∈ blanked [d] := by
            have hvisible : visible (d, mark) = blanked [d] := if_neg hmark
            rw [← hvisible, hentry]
            exact List.mem_append_right _ List.mem_cons_self
          exact absurd (List.eq_of_mem_replicate hspace) hc

lemma code_notMem_of_visible {marked : List (Char × Mark)} {c : Char}
    (hc : c ∉ marked.flatMap visible) : (c, .code) ∉ marked :=
  fun hmem => hc (List.mem_flatMap.mpr ⟨_, hmem, List.mem_singleton_self c⟩)

/-- What is visible between two characters that are no spaces is what is visible of the text between
the two. -/
lemma exists_between_of_flatMap_visible {marked : List (Char × Mark)}
    {before inner after : List Char} {c d : Char} (hc : c ≠ ' ') (hd : d ≠ ' ')
    (h : marked.flatMap visible = before ++ c :: inner ++ d :: after) :
    ∃ front list back, marked = front ++ (c, .code) :: list ++ (d, .code) :: back ∧
      front.flatMap visible = before ∧ list.flatMap visible = inner := by
  rw [List.append_assoc, List.cons_append] at h
  obtain ⟨front, marked, rfl, hfront, hrest⟩ := exists_of_flatMap_visible hc h
  obtain ⟨list, back, rfl, hlist, -⟩ := exists_of_flatMap_visible hd hrest
  exact ⟨front, list, back, by rw [List.append_assoc, List.cons_append], hfront, hlist⟩

/-! ## Neighbours -/

/-- What the marks of a character and of the next one say about each other: a comment begins with a
slash, and the contents of a literal begin after a quote and end before one. -/
structure Adjoins (x y : Char × Mark) : Prop where
  comment : y.2 = .comment → x.2 = .comment ∨ y.1 = '/'
  literal_begins : y.2 = .literal → x.2 = .literal ∨ x = ('"', .code)
  literal_ends : x.2 = .literal → y.2 = .literal ∨ y = ('"', .code)

/-- Code may follow anything but the contents of a literal, which only a quote ends. -/
lemma adjoins_code {x : Char × Mark} {c : Char} (h : x.2 = .literal → c = '"') :
    Adjoins x (c, .code) where
  comment hmark := by cases hmark
  literal_begins hmark := by cases hmark
  literal_ends hmark := Or.inr (by rw [h hmark])

lemma adjoins_code_of_ne {x : Char × Mark} (h : x.2 ≠ .literal) (c : Char) : Adjoins x (c, .code) :=
  adjoins_code fun hmark => absurd hmark h

lemma adjoins_literal {x : Char × Mark} (h : x.2 = .literal ∨ x = ('"', .code)) (c : Char) :
    Adjoins x (c, .literal) where
  comment hmark := by cases hmark
  literal_begins _ := h
  literal_ends _ := Or.inl rfl

lemma adjoins_comment {x : Char × Mark} (h : x.2 ≠ .literal) {c : Char}
    (hbegins : x.2 = .comment ∨ c = '/') : Adjoins x (c, .comment) where
  comment _ := hbegins
  literal_begins hmark := by cases hmark
  literal_ends hmark := absurd hmark h

lemma isChain_code {x : Char × Mark} (hx : x.2 = .code) (d : Char) (cs : List Char) :
    (x :: (cs.map (·, Mark.code) ++ [(d, Mark.code)])).IsChain Adjoins := by
  have hliteral : x.2 ≠ .literal := by
    rw [hx]
    decide
  induction cs generalizing x with
  | nil =>
    exact List.isChain_cons_cons.mpr ⟨adjoins_code_of_ne hliteral d, List.isChain_singleton _⟩
  | cons e cs ih =>
    refine List.isChain_cons_cons.mpr ⟨adjoins_code_of_ne hliteral e, ?_⟩
    exact @ih (e, .code) rfl Mark.noConfusion

lemma isChain_comment {x : Char × Mark} (hx : x.2 = .comment) (d : Char) (cs : List Char) :
    (x :: (cs.map (·, Mark.comment) ++ [(d, Mark.code)])).IsChain Adjoins := by
  have hliteral : x.2 ≠ .literal := by
    rw [hx]
    decide
  induction cs generalizing x with
  | nil =>
    exact List.isChain_cons_cons.mpr ⟨adjoins_code_of_ne hliteral d, List.isChain_singleton _⟩
  | cons e cs ih =>
    refine List.isChain_cons_cons.mpr ⟨adjoins_comment hliteral (Or.inl hx), ?_⟩
    exact @ih (e, .comment) rfl Mark.noConfusion

/-- What stands before the rest of a line that is scanned in the given region. -/
def Enters (x : Char × Mark) : Region → Prop
  | .code => x.2 = .code
  | .literal => x.2 = .literal ∨ x = ('"', .code)

lemma Enters.ne_literal {x : Char × Mark} (hx : Enters x .code) : x.2 ≠ .literal := by
  rw [show x.2 = .code from hx]
  decide

/-- Marks of a line are right neighbours, and with the code before and after the line as well. -/
lemma isChain_markFrom (region : Region) {cs : List Char}
    (hcloses : region = .literal → closes cs = true) {x : Char × Mark} (hx : Enters x region)
    (d : Char) : (x :: (markFrom region cs ++ [(d, .code)])).IsChain Adjoins := by
  have hcode {cs : List Char} : Region.code = .literal → closes cs = true := Region.noConfusion
  fun_induction markFrom region cs generalizing x with
  | case1 region =>
    cases region with
    | code => exact isChain_code hx d []
    | literal => cases hcloses rfl
  | case2 cs =>
    refine List.isChain_cons_cons.mpr ⟨adjoins_comment hx.ne_literal (Or.inr rfl), ?_⟩
    exact @isChain_comment ('/', .comment) rfl d ('/' :: cs)
  | case3 cs hclosed ih =>
    refine List.isChain_cons_cons.mpr ⟨adjoins_code fun _ => rfl, ?_⟩
    exact ih (fun _ => hclosed) (Or.inr rfl)
  | case4 cs hopen => exact isChain_code hx d ('"' :: cs)
  | case5 c cs _ _ ih =>
    exact List.isChain_cons_cons.mpr ⟨adjoins_code_of_ne hx.ne_literal c, ih hcode rfl⟩
  | case6 cs ih =>
    exact List.isChain_cons_cons.mpr ⟨adjoins_code fun _ => rfl, ih hcode rfl⟩
  | case7 c cs ih =>
    have hrest : closes cs = true := by
      have h := hcloses rfl
      rwa [closes] at h
    refine List.isChain_cons_cons.mpr ⟨adjoins_literal hx '\\', ?_⟩
    refine List.isChain_cons_cons.mpr ⟨adjoins_literal (Or.inl rfl) c, ?_⟩
    exact ih (fun _ => hrest) (Or.inl rfl)
  | case8 c cs hquote hescape ih =>
    have hrest : closes cs = true := by
      have h := hcloses rfl
      rw [closes, Bool.or_eq_true, beq_iff_eq] at h
      · exact h.resolve_left hquote
      · exact hescape
    refine List.isChain_cons_cons.mpr ⟨adjoins_literal hx c, ?_⟩
    exact ih (fun _ => hrest) (Or.inl rfl)

lemma isChain_markLine (c d : Char) (line : List Char) :
    ((c, .code) :: (markLine line ++ [(d, .code)])).IsChain Adjoins :=
  @isChain_markFrom .code line Region.noConfusion (c, .code) rfl d

/-! ### Texts line by line -/

lemma markText_unended {content : List Char} (hcontent : '\n' ∉ content) (hne : content ≠ []) :
    markText content = markLine content := by
  have hlast : content.getLast? ≠ some '\n' := fun h => hcontent (List.mem_of_getLast? h)
  rw [markText, pieces_unended hcontent hne, List.flatMap_singleton, splitTerminator_unended hlast]
  exact List.append_nil _

lemma markText_feed {content : List Char} (hcontent : '\n' ∉ content)
    (hreturn : content.getLast? ≠ some '\r') (rest : List Char) :
    markText (content ++ '\n' :: rest) = markLine content ++ ('\n', .code) :: markText rest := by
  rw [markText, pieces_line hcontent, List.flatMap_cons, splitTerminator_feed hreturn, ← markText,
    List.append_assoc]
  rfl

lemma markText_returnFeed {content : List Char} (hcontent : '\n' ∉ content) (rest : List Char) :
    markText (content ++ '\r' :: '\n' :: rest) =
      markLine content ++ ('\r', .code) :: ('\n', .code) :: markText rest := by
  rw [markText, pieces_returnFeed hcontent, List.flatMap_cons, splitTerminator_returnFeed,
    ← markText, List.append_assoc]
  rfl

/-- **Marks of a text are right neighbours.** -/
lemma isChain_markText (c : Char) (text : List Char) :
    ((c, .code) :: markText text).IsChain Adjoins := by
  induction text using lineInduction generalizing c with
  | nil => exact List.isChain_singleton _
  | unended content hcontent hne =>
    rw [markText_unended hcontent hne]
    exact (isChain_markLine c c content).left_of_append
  | feed content rest hcontent hreturn ih =>
    rw [markText_feed hcontent hreturn]
    rw [← List.cons_append, List.isChain_split]
    exact ⟨isChain_markLine c '\n' content, ih '\n'⟩
  | returnFeed content rest hcontent ih =>
    rw [markText_returnFeed hcontent]
    have hend : (('\r', Mark.code) :: ('\n', Mark.code) :: markText rest).IsChain Adjoins :=
      List.isChain_cons_cons.mpr ⟨adjoins_code_of_ne Mark.noConfusion '\n', ih '\n'⟩
    rw [← List.cons_append, List.isChain_split]
    exact ⟨isChain_markLine c '\r' content, hend⟩

end LanguageServer.Source
