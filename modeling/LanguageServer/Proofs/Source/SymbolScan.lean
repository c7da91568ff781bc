import LanguageServer.Proofs.Source.FunctionHead

/-!
# Scanning a script for functions

A scan of a script goes from one head of a function to the next.  `Symbol.Scans` says what it finds
in the rest of a script, after the lines that are done: nothing where no keyword is left, what it
finds after a passage in which no head can begin, and the function of a head that stands on the next
line, with the comment above it.  Every derivation is a run of the scan (`Symbol.scan_of_scans`).

A passage holds no keyword, but it may hold `pub`.  When only blanks follow, as at the end of a
line, the function after the passage would be exported by it, so a passage must not end like this
(`Symbol.Quiet`).
-/

namespace LanguageServer.Symbol

open Text Source

/-! ## Passages without heads -/

/-- No head begins in the text, whatever follows it. -/
structure Quiet (passage : List Char) : Prop where
  keyword_notIn : ¬ functionKeyword <:+: passage
  /-- The last character that is no blank is not the last one of `pub`. -/
  mark_ne : passage.reverse.find? (!isBlank ·) ≠ some 'b'

/-- A head begins with the keyword, or with `pub` and the keyword behind the next blanks. -/
lemma keyword_of_head? {cs : List Char} {result : Head × List Char} (h : head? cs = some result) :
    functionKeyword <+: cs ∨
      ∃ more, cs = exportKeyword ++ more ∧ functionKeyword <+: skipBlanks more := by
  simp only [head?, Option.bind_eq_bind, Option.bind_eq_some_iff] at h
  split at h
  · rename_i after hafter
    obtain ⟨more, hpub, hgap⟩ := Option.bind_eq_some_iff.mp hafter
    obtain ⟨rest, hkeyword, -⟩ := h
    refine Or.inr ⟨more, strip?_eq_some_iff.mp hpub, rest, ?_⟩
    rw [← skipBlanks_of_skipBlanks1? hgap]
    exact (strip?_eq_some_iff.mp hkeyword).symm
  · obtain ⟨rest, hkeyword, -⟩ := h
    exact Or.inl ⟨rest, (strip?_eq_some_iff.mp hkeyword).symm⟩

lemma keyword_infix_of_head? {cs : List Char} {result : Head × List Char}
    (h : head? cs = some result) : functionKeyword <:+: cs := by
  rcases keyword_of_head? h with hkeyword | ⟨more, rfl, hkeyword⟩
  · exact hkeyword.isInfix
  · have hskip : skipBlanks more <:+ exportKeyword ++ more :=
      (List.dropWhile_suffix isBlank).trans (List.suffix_append exportKeyword more)
    exact hkeyword.isInfix.trans hskip.isInfix

lemma isBlank_of_mem_keyword {c : Char} (hc : c ∈ exportKeyword ++ functionKeyword) :
    isBlank c = false := by
  have hall : (exportKeyword ++ functionKeyword).all (!isBlank ·) = true := by decide
  simpa using List.all_eq_true.mp hall c hc

namespace Quiet

variable {passage tail : List Char}

lemma keyword_not_isPrefix (hquiet : Quiet passage)
    (hend : ∀ c ∈ passage.getLast?, isBlank c = true) (htail : tail <:+ passage) (hne : tail ≠ [])
    (rest : List Char) : ¬ functionKeyword <+: tail ++ rest := by
  intro hkeyword
  have hin := isPrefix_of_append
    (fun c hc => isBlank_of_mem_keyword (List.mem_append_right exportKeyword hc)) hne
    (fun c hc => hend c (mem_getLast?_of_suffix htail hc)) hkeyword
  exact hquiet.keyword_notIn (hin.isInfix.trans htail.isInfix)

lemma head?_eq_none (hquiet : Quiet passage) (hend : ∀ c ∈ passage.getLast?, isBlank c = true)
    (htail : tail <:+ passage) (hne : tail ≠ []) (rest : List Char) :
    head? (tail ++ rest) = none := by
  rw [Option.eq_none_iff_forall_ne_some]
  intro result hread
  rcases keyword_of_head? hread with hkeyword | ⟨more, hpub, hkeyword⟩
  · exact hquiet.keyword_not_isPrefix hend htail hne rest hkeyword
  · have hexport : exportKeyword <+: tail :=
      isPrefix_of_append (fun c hc => isBlank_of_mem_keyword (List.mem_append_left _ hc)) hne
        (fun c hc => hend c (mem_getLast?_of_suffix htail hc)) ⟨more, hpub.symm⟩
    obtain ⟨after, rfl⟩ := hexport
    rw [List.append_assoc, List.append_cancel_left_eq] at hpub
    rw [← hpub, skipBlanks, List.dropWhile_append] at hkeyword
    split at hkeyword
    · -- Only blanks follow, so the passage ends with `pub`.
      rename_i hblanks
      obtain ⟨before, rfl⟩ := htail
      refine hquiet.mark_ne ?_
      have hnone : after.reverse.find? (!isBlank ·) = none := by
        rw [List.isEmpty_iff, List.dropWhile_eq_nil_iff] at hblanks
        rw [List.find?_eq_none]
        intro c hc
        simpa using hblanks c (List.mem_reverse.mp hc)
      rw [List.reverse_append, List.reverse_append, List.append_assoc, List.find?_append, hnone]
      rfl
    · rename_i hmark
      have hskip : skipBlanks after <:+ passage :=
        (List.dropWhile_suffix isBlank).trans ((List.suffix_append exportKeyword after).trans htail)
      exact hquiet.keyword_not_isPrefix hend hskip (by simpa [skipBlanks] using hmark) rest hkeyword

end Quiet

/-! ## One step after the other -/

/-- The function that the head declares on the given line. -/
def WrittenHead.symbol (h : WrittenHead) (documentation : Option String) (line : Nat) : Symbol where
  name := String.ofList h.name
  qualifiedName := String.ofList h.name
  rawParameters := String.ofList h.list
  documentation := documentation.getD h.visibility.sentence
  visibility := h.visibility
  location := ⟨none, line⟩

/-- What the comment at the end of the lines says. -/
def lastComment? (done : List Char) : Option String :=
  documentation? (lines done) (lines done).length

/-- After the lines that are done, the scan finds these functions in the rest of the script. -/
inductive Scans : List Char → List Char → List Symbol → Prop where
  | stop {done rest : List Char} (hkeyword : ¬ functionKeyword <:+: scrub rest) : Scans done rest []
  | pass {done passage rest : List Char} {symbols : List Symbol} (hended : Ended passage)
      (hquiet : Quiet (scrub passage)) (next : Scans (done ++ passage) rest symbols) :
      Scans done (passage ++ rest) symbols
  | declare {done rest : List Char} {symbols : List Symbol} (head : WrittenHead)
      (next : Scans (done ++ (head.line ++ ['\n'])) rest symbols) :
      Scans done (head.line ++ '\n' :: rest)
        (head.symbol (lastComment? done) (lines done).length :: symbols)

lemma isBlank_getLast?_scrub {done : List Char} (hdone : Ended done) :
    ∀ c ∈ (scrub done).getLast?, isBlank c = true := by
  intro c hc
  rcases (masks_scrub done).getLast?_eq with hlast | hlast
  · rw [hlast] at hc
    rw [hdone c hc]
    decide
  · rw [hlast, Option.mem_some_iff] at hc
    rw [← hc]
    decide

lemma wordStart_scrub {done : List Char} (hdone : Ended done) :
    wordStart (scrub done).reverse.head? = true := by
  rw [List.head?_reverse]
  cases hlast : (scrub done).getLast? with
  | none => rfl
  | some c =>
    rw [wordStart, isWord_of_isBlank (isBlank_getLast?_scrub hdone c hlast)]
    rfl

/-- A head after ended lines is the function on the next line, with the comment at their end. -/
lemma ofFound_head {done : List Char} (hdone : Ended done) (h : WrittenHead) (rest : List Char) :
    ofFound (done ++ (h.text ++ rest)) none ⟨scrub done, h.head⟩ =
      h.symbol (lastComment? done) (lines done).length := by
  have hbytes : byteLength (scrub done) = byteLength done := (masks_scrub done).byteLength_eq
  have hraw : sliceBytes (byteLength done + byteLength h.opening)
      (byteLength done + byteLength h.opening + byteLength h.list) (done ++ (h.text ++ rest)) =
      h.list := by
    have htext : done ++ (h.text ++ rest) = (done ++ h.opening) ++ (h.list ++ (')' :: rest)) := by
      simp [WrittenHead.text]
    rw [sliceBytes, Nat.add_sub_cancel_left, ← byteLength_append, htext,
      dropBytes_byteLength_append, takeBytes_byteLength_append]
  have hline : lineFeeds (takeBytes (byteLength done) (done ++ (h.text ++ rest))) =
      (lines done).length := by
    rw [takeBytes_byteLength_append, length_lines hdone]
  have hcomment : documentation? (lines (done ++ (h.text ++ rest))) (lines done).length =
      lastComment? done := by
    rw [lastComment?, documentation?, documentation?, lines_append hdone, List.take_left,
      List.take_length]
  simp only [ofFound, WrittenHead.head, WrittenHead.symbol, hbytes, hraw, hline, hcomment,
    h.trim_list]

/-- **What the scan finds step by step is found in the text.** -/
lemma map_ofFound_of_scans {done rest : List Char} {symbols : List Symbol}
    (h : Scans done rest symbols) (hdone : Ended done) :
    (findAllFrom wordStart head? (scrub done).reverse 0 (scrub rest)).map
      (ofFound (done ++ rest) none) = symbols := by
  induction h with
  | stop hkeyword =>
    rw [findAllFrom_eq_nil_of_word (fun _ _ => keyword_infix_of_head?) hkeyword, List.map_nil]
  | @pass done passage rest symbols hended hquiet next ih =>
    have hpass : findAllFrom wordStart head? (scrub done).reverse 0 (scrub passage ++ scrub rest) =
        findAllFrom wordStart head? ((scrub passage).reverse ++ (scrub done).reverse) 0
          (scrub rest) :=
      findAllFrom_passage fun tail htail hne =>
        hquiet.head?_eq_none (isBlank_getLast?_scrub hended) htail hne (scrub rest)
    have hnext := ih (hdone.append hended)
    rw [scrub_append hdone, List.reverse_append, List.append_assoc] at hnext
    rw [scrub_append hended, hpass, hnext]
  | @declare done rest symbols head next ih =>
    have hended : Ended (head.line ++ ['\n']) := ended_feed head.line
    have hopen : Quiet [' ', '{', '\n'] := ⟨by decide, by decide⟩
    have hitem : findAllFrom wordStart head? (scrub done).reverse 0
        (head.text ++ ([' ', '{', '\n'] ++ scrub rest)) =
        ⟨(scrub done).reverse.reverse, head.head⟩ ::
          findAllFrom wordStart head? (head.text.reverse ++ (scrub done).reverse) 0
            ([' ', '{', '\n'] ++ scrub rest) :=
      findAllFrom_item head.text_ne_nil (wordStart_scrub hdone) (head.head?_text _)
    have hend : ∀ c ∈ [' ', '{', '\n'].getLast?, isBlank c = true := by
      rintro c ⟨⟩
      decide
    have hpass : findAllFrom wordStart head? (head.text.reverse ++ (scrub done).reverse) 0
        ([' ', '{', '\n'] ++ scrub rest) =
        findAllFrom wordStart head? (scrub (done ++ (head.line ++ ['\n']))).reverse 0
          (scrub rest) := by
      rw [findAllFrom_passage fun tail htail hne => hopen.head?_eq_none hend htail hne _,
        scrub_append hdone, head.scrub_line]
      simp [WrittenHead.line]
    have htext : head.line ++ '\n' :: rest = head.text ++ ([' ', '{', '\n'] ++ rest) := by
      simp [WrittenHead.line]
    have hscrub : scrub (head.line ++ '\n' :: rest) =
        head.text ++ ([' ', '{', '\n'] ++ scrub rest) := by
      rw [← List.singleton_append, ← List.append_assoc, scrub_append hended, head.scrub_line]
      simp [WrittenHead.line]
    have hnext := ih (hdone.append hended)
    rw [List.append_assoc, List.append_assoc, List.singleton_append] at hnext
    rw [hscrub, hitem, hpass, List.map_cons, hnext, List.reverse_reverse, htext,
      ofFound_head hdone head]

/-! ## Scopes -/

lemma scan_current (text : String) (qualifier : Option String) :
    scan text qualifier .current =
      (findAll wordStart head? (scrub text.toList)).map (ofFound text.toList qualifier) := by
  have hall : ∀ found ∈ findAll wordStart head? (scrub text.toList),
      (Scope.current == .current || found.value.visibility == .exported) = true := fun _ _ => rfl
  rw [scan, List.filter_eq_self.mpr hall]

lemma scan_imported (text : String) (qualifier : Option String) :
    scan text qualifier .imported = (scan text qualifier .current).filter isExported := by
  rw [scan_current, List.filter_map]
  rfl

/-- **A scan finds the functions step by step.** -/
lemma scan_of_scans {text : List Char} {symbols : List Symbol} (h : Scans [] text symbols) :
    scan (String.ofList text) none .current = symbols := by
  have hfound := map_ofFound_of_scans h ended_nil
  rw [scan_current, String.toList_ofList]
  exact hfound

end LanguageServer.Symbol
