import LanguageServer.Proofs.Document.Splice

/-!
# Insertions at the start of a line

An insertion at column zero of a line goes to the start of the edit line with that number, while the
sender of the change may have counted query lines.  This file says when the two are the same place:
exactly when the breaks before the query line are plain (`Document.insertion_at_line_start_iff`).
What stands after the start of the line does not matter, and with other breaks before it the
insertion lands too early, never too late.

The argument counts lines.

* A text has at least one edit line more than line feeds, and no further one exactly when its breaks
  are plain (`Text.length_editLines_eq_iff`).
* A text that ends with a line feed is cut into edit lines on its own, whatever follows it
  (`Text.editLines_append`), and so are the query lines before a given one.
-/

namespace LanguageServer

namespace Text

/-! ## Counting line breaks -/

lemma isBreak_iff (c : Char) : isBreak c = true ↔ c = '\n' ∨ c = '\r' ∨ c ∈ rareBreaks := by
  simp only [isBreak, rareBreaks, Bool.or_eq_true, beq_iff_eq, List.mem_cons, List.not_mem_nil,
    or_false, or_assoc]

lemma plainBreaks_nil : PlainBreaks [] :=
  ⟨by simp, by simp⟩

lemma plainBreaks_cons_iff (c : Char) (cs : List Char) :
    PlainBreaks (c :: cs) ↔
      c ∉ rareBreaks ∧ (c = '\r' → cs.head? = some '\n') ∧ PlainBreaks cs := by
  constructor
  · intro h
    refine ⟨h.noRare c (by simp), ?_, h.tail⟩
    rintro rfl
    obtain ⟨ds, rfl⟩ := h.head_return
    rfl
  · rintro ⟨hrare, hreturn, h⟩
    refine ⟨fun i hi => ?_, fun d hd => ?_⟩
    · cases i with
      | zero => simpa [List.head?_eq_getElem?] using hreturn (by simpa using hi)
      | succ i => simpa using h.paired i (by simpa using hi)
    · rcases List.mem_cons.mp hd with rfl | hd
      · exact hrare
      · exact h.noRare d hd

lemma editLines_break {c : Char} {cs : List Char} (hc : isBreak c = true)
    (halone : c = '\r' → cs.head? ≠ some '\n') : editLines (c :: cs) = [c] :: editLines cs := by
  rw [editLines, if_pos hc]
  rintro ds rfl rfl
  exact halone rfl rfl

lemma lineFeeds_lt_length_editLines (cs : List Char) : lineFeeds cs < (editLines cs).length := by
  fun_induction editLines cs with
  | case1 => simp [lineFeeds]
  | case2 cs ih =>
    simp only [lineFeeds, List.length_cons] at ih ⊢
    rw [List.count_cons_of_ne (by decide), List.count_cons_self]
    omega
  | case3 c cs _ _ ih =>
    have hcount : lineFeeds (c :: cs) ≤ lineFeeds cs + 1 := by
      rw [lineFeeds, lineFeeds, List.count_cons]
      split <;> omega
    rw [List.length_cons]
    omega
  | case4 c cs _ _ h ih => exact absurd h (editLines_ne_nil cs)
  | case5 c cs _ hc l ls h ih =>
    have hfeed : c ≠ '\n' := fun e => hc ((isBreak_iff c).mpr (Or.inl e))
    rw [h] at ih
    rw [lineFeeds, List.count_cons_of_ne hfeed, ← lineFeeds]
    exact ih

/-- **The breaks of a text are plain exactly when line feeds count its edit lines.** -/
lemma length_editLines_eq_iff (cs : List Char) :
    (editLines cs).length = lineFeeds cs + 1 ↔ PlainBreaks cs := by
  fun_induction editLines cs with
  | case1 => simp [lineFeeds, plainBreaks_nil]
  | case2 cs ih =>
    have hcount : lineFeeds ('\r' :: '\n' :: cs) = lineFeeds cs + 1 := by
      rw [lineFeeds, List.count_cons_of_ne (by decide), List.count_cons_self, lineFeeds]
    rw [plainBreaks_cons_iff, plainBreaks_cons_iff, ← ih, hcount, List.length_cons]
    simp [rareBreaks]
  | case3 c cs hpair hc ih =>
    by_cases hfeed : c = '\n'
    · subst hfeed
      rw [plainBreaks_cons_iff, ← ih, lineFeeds, List.count_cons_self, List.length_cons]
      simp [rareBreaks, lineFeeds]
    · -- The break ends an edit line, and no line feed accounts for it.
      have hlt := lineFeeds_lt_length_editLines cs
      rw [lineFeeds, List.count_cons_of_ne hfeed, ← lineFeeds, List.length_cons]
      refine iff_of_false (by omega) ?_
      rw [plainBreaks_cons_iff]
      rintro ⟨hrare, hreturn, -⟩
      rcases (isBreak_iff c).mp hc with rfl | rfl | hmem
      · exact hfeed rfl
      · obtain ⟨ds, rfl⟩ := List.head?_eq_some_iff.mp (hreturn rfl)
        exact hpair ds rfl rfl
      · exact hrare hmem
  | case4 c cs _ _ h ih => exact absurd h (editLines_ne_nil cs)
  | case5 c cs _ hc l ls h ih =>
    have hplain : c ≠ '\n' ∧ c ≠ '\r' ∧ c ∉ rareBreaks := by
      simpa [isBreak_iff] using hc
    rw [h] at ih
    rw [plainBreaks_cons_iff, ← ih, lineFeeds, List.count_cons_of_ne hplain.1, ← lineFeeds]
    simp [hplain]

instance (cs : List Char) : Decidable (PlainBreaks cs) :=
  decidable_of_iff _ (length_editLines_eq_iff cs)

/-! ## Texts that end with their last line -/

/-- An ended text is cut into edit lines on its own, without the last one, which is where the text
after it goes. -/
lemma editLines_append {cs : List Char} (h : Ended cs) (rest : List Char) :
    editLines (cs ++ rest) = (editLines cs).dropLast ++ editLines rest := by
  fun_induction editLines cs with
  | case1 => simp
  | case2 cs ih =>
    rw [List.cons_append, List.cons_append, editLines, ih h.tail.tail,
      List.dropLast_cons_of_ne_nil (editLines_ne_nil cs), List.cons_append]
  | case3 c cs hpair hc ih =>
    have halone : c = '\r' → (cs ++ rest).head? ≠ some '\n' := by
      rintro rfl hhead
      cases cs with
      | nil => exact absurd (h '\r' (by simp)) (by decide)
      | cons d ds => exact hpair ds rfl (by simpa using hhead)
    rw [List.cons_append, editLines_break hc halone, ih h.tail,
      List.dropLast_cons_of_ne_nil (editLines_ne_nil cs), List.cons_append]
  | case4 c cs _ _ hnil ih => exact absurd hnil (editLines_ne_nil cs)
  | case5 c cs _ hc l ls hlines ih =>
    have hfeed : c ≠ '\n' := fun e => hc ((isBreak_iff c).mpr (Or.inl e))
    have hmem : '\n' ∈ cs := (List.mem_cons.mp (h.mem (by simp))).resolve_left hfeed.symm
    -- A line feed stands ahead, so the line that the character joins is not the last one.
    have hls : ls ≠ [] := by
      have hlt := lineFeeds_lt_length_editLines cs
      have hpos : 0 < lineFeeds cs := List.count_pos_iff.mpr hmem
      rw [hlines, List.length_cons] at hlt
      intro hnil
      rw [hnil, List.length_nil] at hlt
      omega
    rw [List.cons_append, editLines_cons (by simpa using hc), ih h.tail, hlines,
      List.dropLast_cons_of_ne_nil hls, List.dropLast_cons_of_ne_nil hls]
    rfl

lemma ne_nil_of_mem_dropLast_editLines {cs line : List Char}
    (h : line ∈ (editLines cs).dropLast) : line ≠ [] := by
  fun_induction editLines cs with
  | case1 => simp at h
  | case2 cs ih =>
    rw [List.dropLast_cons_of_ne_nil (editLines_ne_nil cs), List.mem_cons] at h
    rcases h with rfl | h
    · simp
    · exact ih h
  | case3 c cs _ _ ih =>
    rw [List.dropLast_cons_of_ne_nil (editLines_ne_nil cs), List.mem_cons] at h
    rcases h with rfl | h
    · simp
    · exact ih h
  | case4 c cs _ _ hnil ih => exact absurd hnil (editLines_ne_nil cs)
  | case5 c cs _ _ l ls hlines ih =>
    cases ls with
    | nil => simp at h
    | cons l' ls =>
      rw [List.dropLast_cons_of_ne_nil (by simp), List.mem_cons] at h
      rcases h with rfl | h
      · simp
      · apply ih
        rw [hlines, List.dropLast_cons_of_ne_nil (by simp)]
        exact List.mem_cons_of_mem l h

/-- Of an ended text only an empty edit line is left out with the last one. -/
lemma Ended.flatten_dropLast_editLines {cs : List Char} (h : Ended cs) :
    (editLines cs).dropLast.flatten = cs := by
  have hsplit := editLines_append h []
  have hall := flatten_editLines cs
  rw [List.append_nil] at hsplit
  rw [hsplit] at hall
  simpa [editLines] using hall

lemma flatten_drop_dropLast_editLines_eq_nil_iff (count : Nat) (cs : List Char) :
    ((editLines cs).dropLast.drop count).flatten = [] ↔ (editLines cs).length ≤ count + 1 := by
  rw [← Nat.sub_le_iff_le_add, ← List.length_dropLast, ← List.drop_eq_nil_iff]
  constructor
  · intro h
    by_contra hne
    obtain ⟨line, hline⟩ := List.exists_mem_of_ne_nil _ hne
    exact ne_nil_of_mem_dropLast_editLines (List.mem_of_mem_drop hline)
      (List.flatten_eq_nil_iff.mp h line hline)
  · intro h
    rw [h, List.flatten_nil]

/-! ## The text before a query line -/

/-- The text before the query line with this number. -/
def beforeLine (line : Nat) (text : List Char) : List Char :=
  ((pieces text).take line).flatten

/-- The text from the query line with this number on. -/
def fromLine (line : Nat) (text : List Char) : List Char :=
  ((pieces text).drop line).flatten

lemma beforeLine_append_fromLine (line : Nat) (text : List Char) :
    beforeLine line text ++ fromLine line text = text := by
  rw [beforeLine, fromLine, ← List.flatten_append, List.take_append_drop, flatten_pieces]

/-- The text before a later line begins with the first line, which ends with its only line feed. -/
lemma beforeLine_succ {line : Nat} {text : List Char} (hline : line + 1 < (pieces text).length) :
    ∃ body rest, '\n' ∉ body ∧ line < (pieces rest).length ∧
      beforeLine (line + 1) text = body ++ '\n' :: beforeLine line rest := by
  by_cases hfeed : '\n' ∈ text
  · obtain ⟨body, rest, rfl, hbody⟩ := List.eq_append_cons_of_mem hfeed
    rw [pieces_line hbody, List.length_cons] at hline
    refine ⟨body, rest, hbody, by omega, ?_⟩
    simp [beforeLine, pieces_line hbody]
  · -- A text without line feeds has one line at most.
    by_cases hne : text = []
    · simp [hne, pieces] at hline
    · simp [pieces_unended hfeed hne] at hline

lemma lineFeeds_beforeLine {line : Nat} {text : List Char} (hline : line < (pieces text).length) :
    lineFeeds (beforeLine line text) = line := by
  induction line generalizing text with
  | zero => simp [beforeLine, lineFeeds]
  | succ line ih =>
    obtain ⟨body, rest, hbody, hrest, heq⟩ := beforeLine_succ hline
    have htail := ih hrest
    rw [lineFeeds] at htail
    rw [heq, lineFeeds, List.count_append, List.count_eq_zero.mpr hbody, List.count_cons_self,
      htail, Nat.zero_add]

lemma ended_beforeLine {line : Nat} {text : List Char} (hline : line < (pieces text).length) :
    Ended (beforeLine line text) := by
  induction line generalizing text with
  | zero => simp [beforeLine, Ended]
  | succ line ih =>
    obtain ⟨body, rest, -, hrest, heq⟩ := beforeLine_succ hline
    have htail := ih hrest
    rw [heq, Ended, List.getLast?_append]
    cases hlines : beforeLine line rest with
    | nil => simp
    | cons c cs =>
      rw [hlines, Ended] at htail
      simpa [List.getLast?_cons_cons] using htail

/-- **The edit lines before a query line number fall short of the query lines, unless the breaks
there are plain.** -/
lemma exists_beforeLine_eq {line : Nat} {text : List Char} (hline : line < (pieces text).length) :
    line < (editLines text).length ∧
      ∃ missed, beforeLine line text = ((editLines text).take line).flatten ++ missed ∧
        (missed = [] ↔ PlainBreaks (beforeLine line text)) := by
  set before := beforeLine line text
  have hended : Ended before := ended_beforeLine hline
  have hlines : editLines text = (editLines before).dropLast ++ editLines (fromLine line text) := by
    rw [← editLines_append hended, beforeLine_append_fromLine]
  have hcount : lineFeeds before = line := lineFeeds_beforeLine hline
  have hlt := lineFeeds_lt_length_editLines before
  have hle : line ≤ (editLines before).dropLast.length := by
    rw [List.length_dropLast]
    omega
  refine ⟨?_, ((editLines before).dropLast.drop line).flatten, ?_, ?_⟩
  · have hpos := List.length_pos_iff.mpr (editLines_ne_nil (fromLine line text))
    rw [hlines, List.length_append]
    omega
  · rw [hlines, List.take_append_of_le_length hle, ← List.flatten_append, List.take_append_drop,
      hended.flatten_dropLast_editLines]
  · rw [flatten_drop_dropLast_editLines_eq_nil_iff, ← length_editLines_eq_iff]
    omega

end Text

open Text

/-! ## Insertions -/

/-- The change that inserts a text at a position and takes nothing away. -/
def Change.insertion (position : Position) (text : String) : Change :=
  ⟨some ⟨position, position⟩, text⟩

lemma Change.apply_insertion_between {position : Position} {text front back : List Char}
    (htext : front ++ back = text) (hfront : position.editOffset text = front.length)
    (inserted : String) :
    (Change.insertion position inserted).apply text = front ++ inserted.toList ++ back := by
  have hsplice : splice front.length front.length inserted.toList text =
      front ++ inserted.toList ++ back := by
    rw [splice, Nat.max_self, ← htext, List.take_left, List.drop_left]
  rw [← hfront] at hsplice
  exact hsplice

lemma Change.apply_insertion {line : Nat} {text : List Char} (inserted : String)
    (hline : line < (editLines text).length) :
    (Change.insertion ⟨line, 0⟩ inserted).apply text =
      ((editLines text).take line).flatten ++ inserted.toList ++
        ((editLines text).drop line).flatten := by
  have hzero : ∀ cs, columnChars 0 cs = 0 := fun cs => by cases cs <;> rfl
  refine Change.apply_insertion_between ?_ ?_ inserted
  · rw [← List.flatten_append, List.take_append_drop, flatten_editLines]
  · rw [Position.editOffset_eq hline, hzero, Nat.add_zero]

/-- Where every text can be inserted at either of two places with the same result, the places are
the same. -/
lemma eq_nil_of_insertions_agree {first missed last : List Char}
    (h : ∀ inserted : String,
      first ++ inserted.toList ++ (missed ++ last) = first ++ missed ++ inserted.toList ++ last) :
    missed = [] := by
  cases missed with
  | nil => rfl
  | cons c missed =>
    have hfirst : ∀ d : Char, d = c := by
      intro d
      have hd := h (String.ofList [d])
      rw [String.toList_ofList] at hd
      simp only [List.append_assoc, List.append_cancel_left_eq, List.cons_append] at hd
      exact (List.cons.inj hd).1
    exact absurd ((hfirst 'a').trans (hfirst 'b').symm) (by decide)

/-- **An insertion at column zero lands at the start of the query line exactly when the breaks
before that line are plain.**  It always lands at the start of the edit line with that number, and
this is never after the start of the query line. -/
theorem Document.insertion_at_line_start_iff (document : Document) (line : Nat)
    (hline : line < (lines document.text.toList).length) :
    let text := document.text.toList
    let start := ((editLines text).take line).flatten
    let after := fun inserted : String =>
      (document.apply (Change.insertion ⟨line, 0⟩ inserted)).text.toList
    (∀ inserted : String,
        after inserted = start ++ inserted.toList ++ ((editLines text).drop line).flatten) ∧
      start <+: beforeLine line text ∧
      ((∀ inserted : String,
          after inserted = beforeLine line text ++ inserted.toList ++ fromLine line text) ↔
        PlainBreaks (beforeLine line text)) := by
  intro text start after
  rw [lines, List.length_map] at hline
  obtain ⟨hedit, missed, hbefore, hmissed⟩ := exists_beforeLine_eq hline
  have hafter : ∀ inserted : String,
      after inserted = start ++ inserted.toList ++ ((editLines text).drop line).flatten := by
    intro inserted
    rw [← Change.apply_insertion inserted hedit]
    exact String.toList_ofList
  -- What the insertion misses of the lines before stands between it and the start of the line.
  have hrest : ((editLines text).drop line).flatten = missed ++ fromLine line text := by
    have hwhole : start ++ ((editLines text).drop line).flatten =
        start ++ (missed ++ fromLine line text) := by
      rw [← List.flatten_append, List.take_append_drop, flatten_editLines, ← List.append_assoc,
        ← hbefore, beforeLine_append_fromLine]
    exact List.append_cancel_left hwhole
  refine ⟨hafter, ⟨missed, hbefore.symm⟩, ?_⟩
  rw [← hmissed]
  constructor
  · intro hagree
    have hsame : ∀ inserted : String, start ++ inserted.toList ++ (missed ++ fromLine line text) =
        start ++ missed ++ inserted.toList ++ fromLine line text := by
      intro inserted
      rw [← hrest, ← hafter, hagree, hbefore]
    exact eq_nil_of_insertions_agree hsame
  · intro hnil inserted
    rw [hafter, hrest, hbefore, hnil, List.append_nil, List.nil_append]

/-- A carriage return with its line feed leaves the next line where it is; a vertical tab moves the
insertions for every line after its own. -/
theorem Document.insertion_at_line_start_iff_tab :
    let document := Document.opened "a\r\nb\x0bc\nd" none
    1 < (lines document.text.toList).length ∧ 2 < (lines document.text.toList).length ∧
      (∀ inserted : String,
        (document.apply (Change.insertion ⟨1, 0⟩ inserted)).text.toList =
          ['a', '\r', '\n'] ++ inserted.toList ++ ['b', '\x0b', 'c', '\n', 'd']) ∧
      ¬ ∀ inserted : String,
        (document.apply (Change.insertion ⟨2, 0⟩ inserted)).text.toList =
          ['a', '\r', '\n', 'b', '\x0b', 'c', '\n'] ++ inserted.toList ++ ['d'] := by
  intro document
  have hone : 1 < (lines document.text.toList).length := by decide +kernel
  have htwo : 2 < (lines document.text.toList).length := by decide +kernel
  refine ⟨hone, htwo, ?_, ?_⟩
  · have hplain : PlainBreaks (beforeLine 1 document.text.toList) := by decide +kernel
    have hbefore : beforeLine 1 document.text.toList = ['a', '\r', '\n'] := by decide +kernel
    have hfrom : fromLine 1 document.text.toList = ['b', '\x0b', 'c', '\n', 'd'] := by
      decide +kernel
    have hexact := (Document.insertion_at_line_start_iff document 1 hone).2.2.mpr hplain
    rw [hbefore, hfrom] at hexact
    exact hexact
  · have htab : ¬ PlainBreaks (beforeLine 2 document.text.toList) := by decide +kernel
    have hbefore : beforeLine 2 document.text.toList =
        ['a', '\r', '\n', 'b', '\x0b', 'c', '\n'] := by decide +kernel
    have hfrom : fromLine 2 document.text.toList = ['d'] := by decide +kernel
    have hmissed := mt (Document.insertion_at_line_start_iff document 2 htwo).2.2.mp htab
    rw [hbefore, hfrom] at hmissed
    exact hmissed

/-- A line separator inside a string literal is a break for edits only: what is inserted at the
start of the next line lands inside the literal. -/
theorem Document.insertion_may_miss_line_start :
    let document := Document.opened "let s = \"a\u2028b\"\nlet t = 2" none
    let edited := document.apply (Change.insertion ⟨1, 0⟩ "// note\n")
    1 < (lines document.text.toList).length ∧
      beforeLine 1 document.text.toList = "let s = \"a\u2028b\"\n".toList ∧
      fromLine 1 document.text.toList = "let t = 2".toList ∧
      edited.text = "let s = \"a\u2028// note\nb\"\nlet t = 2" ∧
      edited.text.toList ≠ beforeLine 1 document.text.toList ++ "// note\n".toList ++
        fromLine 1 document.text.toList := by
  decide +kernel

end LanguageServer
