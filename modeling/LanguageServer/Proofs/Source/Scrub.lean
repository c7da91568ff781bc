import LanguageServer.Proofs.Text.Line
import LanguageServer.Proofs.Text.Split
import LanguageServer.Source.Scrub

/-!
# What scrubbing keeps

Scrubbing exchanges characters for spaces, as many as the character takes bytes, and never exchanges
a line feed.  `Masks` says just this about two texts, and every text masks to its scrubbed form
(`masks_scrub`).  What scrubbing keeps follows from it by induction over the mask: byte lengths
(`Masks.byteLength_eq`) and the number of line feeds before every byte offset
(`Masks.lineFeeds_takeBytes`).

Since a mask neither makes nor loses the end of a line, the lines of the scrubbed text are the
scrubbed lines of the text (`lines_scrub`), and after the end of a line scrubbing begins anew
(`scrub_append`).  A word that is in a scrubbed text is in a scrubbed line of it
(`infix_scrub_unlines`).  A text without quotes and slashes is its own scrubbed form
(`scrub_plain`).
-/

namespace LanguageServer.Source

open Text

/-! ## Masks -/

/-- The second text is the first one with some characters, none of them a line feed, exchanged for
as many spaces as they take bytes. -/
inductive Masks : List Char → List Char → Prop where
  | nil : Masks [] []
  | keep (c : Char) {cs ds : List Char} (rest : Masks cs ds) : Masks (c :: cs) (c :: ds)
  | blank {c : Char} {cs ds : List Char} (hc : c ≠ '\n') (rest : Masks cs ds) :
      Masks (c :: cs) (blanked [c] ++ ds)

lemma blanked_cons (c : Char) (cs : List Char) : blanked (c :: cs) = blanked [c] ++ blanked cs := by
  simp [blanked, List.replicate_append_replicate]

lemma byteLength_blanked (cs : List Char) : byteLength (blanked cs) = byteLength cs := by
  have hspaces : ∀ n, byteLength (List.replicate n ' ') = n := by
    intro n
    induction n with
    | zero => rfl
    | succ n ih =>
      have hspace : ' '.utf8Size = 1 := rfl
      rw [List.replicate_succ, byteLength_cons, ih, hspace, Nat.add_comm]
  exact hspaces (byteLength cs)

namespace Masks

variable {cs ds cs' ds' : List Char}

lemma refl (cs : List Char) : Masks cs cs := by
  induction cs with
  | nil => exact nil
  | cons c cs ih => exact keep c ih

lemma append (h : Masks cs ds) (h' : Masks cs' ds') : Masks (cs ++ cs') (ds ++ ds') := by
  induction h with
  | nil => exact h'
  | keep c _ ih => exact keep c ih
  | blank hc _ ih =>
    rw [List.cons_append, List.append_assoc]
    exact blank hc ih

lemma blanked (hcs : '\n' ∉ cs) : Masks cs (blanked cs) := by
  induction cs with
  | nil => exact nil
  | cons c cs ih =>
    rw [List.mem_cons, not_or] at hcs
    rw [blanked_cons]
    exact blank (Ne.symm hcs.1) (ih hcs.2)

lemma byteLength_eq (h : Masks cs ds) : byteLength ds = byteLength cs := by
  induction h with
  | nil => rfl
  | keep c _ ih => rw [byteLength_cons, byteLength_cons, ih]
  | blank hc _ ih => rw [byteLength_append, byteLength_blanked, ih]; rfl

lemma mem (h : Masks cs ds) {d : Char} (hd : d ∈ ds) : d ∈ cs ∨ d = ' ' := by
  induction h with
  | nil => exact Or.inl hd
  | keep c _ ih =>
    rcases List.mem_cons.mp hd with rfl | hd
    · exact Or.inl (by simp)
    · exact (ih hd).imp_left (List.mem_cons_of_mem c)
  | blank hc _ ih =>
    rcases List.mem_append.mp hd with hd | hd
    · exact Or.inr (List.eq_of_mem_replicate hd)
    · exact (ih hd).imp_left (List.mem_cons_of_mem _)

lemma getLast?_eq (h : Masks cs ds) : ds.getLast? = cs.getLast? ∨ ds.getLast? = some ' ' := by
  induction h with
  | nil => exact Or.inl rfl
  | keep c _ ih =>
    rw [List.getLast?_cons, List.getLast?_cons]
    rcases ih with h | h
    · exact Or.inl (by rw [h])
    · exact Or.inr (by rw [h]; rfl)
  | @blank c cs ds hc _ ih =>
    have hspaces : (Source.blanked [c]).getLast? = some ' ' := by
      have hsize : byteLength [c] ≠ 0 := by
        have := c.utf8Size_pos
        simp only [byteLength_cons, byteLength_nil]
        omega
      rw [Source.blanked, List.getLast?_replicate, if_neg hsize]
    rw [List.getLast?_append, hspaces]
    rcases ih with h | h
    · rw [h, List.getLast?_cons]
      cases cs.getLast? <;> simp
    · exact Or.inr (by rw [h]; rfl)

lemma lineFeeds_takeBytes_spaces (k n : Nat) (cs : List Char) :
    lineFeeds (takeBytes n (List.replicate k ' ' ++ cs)) =
      if k ≤ n then lineFeeds (takeBytes (n - k) cs) else 0 := by
  have hspace : ' '.utf8Size = 1 := rfl
  induction k generalizing n with
  | zero => simp
  | succ k ih =>
    rw [List.replicate_succ, List.cons_append, takeBytes, hspace]
    by_cases hn : 1 ≤ n
    · rw [if_pos hn, lineFeeds, List.count_cons_of_ne (by decide), ← lineFeeds, ih, Nat.sub_sub,
        Nat.add_comm 1 k]
      exact if_congr (by omega) rfl rfl
    · rw [if_neg hn, if_neg (by omega)]
      rfl

/-- Before every byte offset there are as many line feeds on both sides. -/
lemma lineFeeds_takeBytes (h : Masks cs ds) (n : Nat) :
    lineFeeds (takeBytes n ds) = lineFeeds (takeBytes n cs) := by
  induction h generalizing n with
  | nil => rfl
  | keep c _ ih =>
    rw [takeBytes, takeBytes]
    split
    · rw [lineFeeds, List.count_cons, ← lineFeeds, ih, lineFeeds, lineFeeds, List.count_cons]
    · rfl
  | @blank c cs ds hc _ ih =>
    have hsize : byteLength [c] = c.utf8Size := by simp
    rw [Source.blanked, hsize, lineFeeds_takeBytes_spaces, takeBytes]
    split
    · rw [ih, lineFeeds, lineFeeds, List.count_cons_of_ne hc]
    · rfl

end Masks

/-! ## Lines -/

lemma masks_scrubFrom (region : Region) {cs : List Char} (hcs : '\n' ∉ cs) :
    Masks cs (scrubFrom region cs) := by
  fun_induction scrubFrom region cs with
  | case1 => exact .nil
  | case2 cs => exact .blanked hcs
  | case3 cs hcloses ih => exact .keep '"' (ih fun h => hcs (List.mem_cons_of_mem _ h))
  | case4 cs hcloses => exact .refl _
  | case5 c cs _ _ ih => exact .keep c (ih fun h => hcs (List.mem_cons_of_mem _ h))
  | case6 cs ih => exact .keep '"' (ih fun h => hcs (List.mem_cons_of_mem _ h))
  | case7 c cs ih =>
    simp only [List.mem_cons, not_or] at hcs
    have hescape : Masks ['\\', c] (blanked ['\\', c]) :=
      .blanked (by simp only [List.mem_cons, List.not_mem_nil, not_or]; tauto)
    exact hescape.append (ih hcs.2.2)
  | case8 c cs _ _ ih =>
    rw [List.mem_cons, not_or] at hcs
    exact .blank (Ne.symm hcs.1) (ih hcs.2)

lemma masks_scrubLine {line : List Char} (hline : '\n' ∉ line) : Masks line (scrubLine line) :=
  masks_scrubFrom .code hline

/-- Scrubbing makes no character but spaces. -/
lemma notMem_scrubLine {line : List Char} (hline : '\n' ∉ line) {c : Char} (hc : c ∉ line)
    (hspace : c ≠ ' ') : c ∉ scrubLine line := by
  intro hmem
  rcases (masks_scrubLine hline).mem hmem with h | h
  · exact hc h
  · exact hspace h

lemma lineFeed_notMem_scrubLine {line : List Char} (hline : '\n' ∉ line) :
    '\n' ∉ scrubLine line :=
  notMem_scrubLine hline hline (by decide)

lemma getLast?_scrubLine_ne {line : List Char} (hline : '\n' ∉ line)
    (hreturn : line.getLast? ≠ some '\r') : (scrubLine line).getLast? ≠ some '\r' := by
  rcases (masks_scrubLine hline).getLast?_eq with h | h
  · rwa [h]
  · rw [h]
    decide

lemma scrubLine_ne_nil {line : List Char} (hline : '\n' ∉ line) (hne : line ≠ []) :
    scrubLine line ≠ [] := by
  obtain ⟨c, cs, rfl⟩ := List.exists_cons_of_ne_nil hne
  intro h
  have hlength := (masks_scrubLine hline).byteLength_eq
  have hsize := c.utf8Size_pos
  rw [h, byteLength_nil, byteLength_cons] at hlength
  omega

/-! ## Carriage returns -/

lemma closes_return (cs : List Char) : closes (cs ++ ['\r']) = closes cs := by
  fun_induction closes cs with
  | case1 => rfl
  | case2 c cs ih => simpa only [List.cons_append, closes] using ih
  | case3 c cs hescape ih =>
    by_cases hlast : c = '\\' ∧ cs = []
    · obtain ⟨rfl, rfl⟩ := hlast
      rfl
    · rw [List.cons_append, closes, ih]
      intro d ds hc hds
      cases cs with
      | nil => exact hlast ⟨hc, rfl⟩
      | cons e cs => exact hescape e cs hc rfl

/-- A carriage return at the end of a line changes nothing before it. -/
lemma scrubFrom_isPrefix_return (region : Region) (cs : List Char) :
    scrubFrom region cs <+: scrubFrom region (cs ++ ['\r']) := by
  fun_induction scrubFrom region cs with
  | case1 => exact List.nil_prefix
  | case2 cs =>
    refine ⟨blanked ['\r'], ?_⟩
    simp [scrubFrom, blanked, List.replicate_append_replicate, Nat.add_assoc]
  | case3 cs hcloses ih =>
    rw [← closes_return] at hcloses
    rw [List.cons_append, scrubFrom, if_pos hcloses]
    exact List.cons_prefix_cons.mpr ⟨rfl, ih⟩
  | case4 cs hcloses =>
    rw [← closes_return] at hcloses
    rw [List.cons_append, scrubFrom, if_neg hcloses]
    exact List.prefix_append ('"' :: cs) ['\r']
  | case5 c cs hcomment hquote ih =>
    rw [List.cons_append, scrubFrom]
    · exact List.cons_prefix_cons.mpr ⟨rfl, ih⟩
    · intro ds hc hds
      cases cs with
      | nil => cases hds
      | cons d cs => exact hcomment cs hc (by simp at hds; rw [hds.1])
    · exact hquote
  | case6 cs ih =>
    rw [List.cons_append, scrubFrom]
    exact List.cons_prefix_cons.mpr ⟨rfl, ih⟩
  | case7 c cs ih =>
    rw [List.cons_append, List.cons_append, scrubFrom]
    exact (List.prefix_append_right_inj _).mpr ih
  | case8 c cs hquote hescape ih =>
    by_cases hlast : c = '\\' ∧ cs = []
    · obtain ⟨rfl, rfl⟩ := hlast
      exact ⟨[' '], rfl⟩
    · rw [List.cons_append, scrubFrom]
      · exact (List.prefix_append_right_inj _).mpr ih
      · exact hquote
      · intro d ds hc hds
        cases cs with
        | nil => exact hlast ⟨hc, rfl⟩
        | cons e cs => exact hescape e cs hc rfl

/-! ## Texts -/

@[simp] lemma scrub_nil : scrub [] = [] := rfl

lemma scrub_unended {content : List Char} (hcontent : '\n' ∉ content) (hne : content ≠ []) :
    scrub content = scrubLine content := by
  have hlast : content.getLast? ≠ some '\n' := fun h => hcontent (List.mem_of_getLast? h)
  rw [scrub, pieces_unended hcontent hne, List.flatMap_singleton, splitTerminator_unended hlast]
  exact List.append_nil _

lemma scrub_feed {content : List Char} (hcontent : '\n' ∉ content)
    (hreturn : content.getLast? ≠ some '\r') (rest : List Char) :
    scrub (content ++ '\n' :: rest) = scrubLine content ++ '\n' :: scrub rest := by
  rw [scrub, pieces_line hcontent, List.flatMap_cons, splitTerminator_feed hreturn, ← scrub,
    List.append_assoc]
  rfl

lemma scrub_returnFeed {content : List Char} (hcontent : '\n' ∉ content) (rest : List Char) :
    scrub (content ++ '\r' :: '\n' :: rest) = scrubLine content ++ '\r' :: '\n' :: scrub rest := by
  rw [scrub, pieces_returnFeed hcontent, List.flatMap_cons, splitTerminator_returnFeed, ← scrub,
    List.append_assoc]
  rfl

/-- A text masks to its scrubbed form. -/
theorem masks_scrub (text : List Char) : Masks text (scrub text) := by
  induction text using lineInduction with
  | nil => exact .nil
  | unended content hcontent hne =>
    rw [scrub_unended hcontent hne]
    exact masks_scrubLine hcontent
  | feed content rest hcontent hreturn ih =>
    rw [scrub_feed hcontent hreturn]
    exact (masks_scrubLine hcontent).append (.keep '\n' ih)
  | returnFeed content rest hcontent ih =>
    rw [scrub_returnFeed hcontent]
    exact (masks_scrubLine hcontent).append (.keep '\r' (.keep '\n' ih))

/-- An ended text is scrubbed on its own, whatever follows it. -/
lemma scrub_append {text : List Char} (h : Ended text) (rest : List Char) :
    scrub (text ++ rest) = scrub text ++ scrub rest := by
  rw [scrub, pieces_append h, List.flatMap_append, ← scrub, ← scrub]

/-- A word without line ends occurs in a scrubbed text that is written line by line only where it
occurs in a scrubbed line. -/
lemma infix_scrub_line {word line rest : List Char} (hfeed : '\n' ∉ word) (hreturn : '\r' ∉ word)
    (hline : '\n' ∉ line) (h : word <:+: scrub (line ++ '\n' :: rest)) :
    word <:+: scrubLine line ∨ word <:+: scrub rest := by
  by_cases hlast : line.getLast? = some '\r'
  · obtain ⟨content, rfl⟩ := List.getLast?_eq_some_iff.mp hlast
    have hcontent : '\n' ∉ content := fun hmem => hline (List.mem_append_left _ hmem)
    rw [List.append_assoc, List.singleton_append, scrub_returnFeed hcontent] at h
    rcases infix_of_append_separator h hreturn with hin | hin
    · exact Or.inl (hin.trans (scrubFrom_isPrefix_return .code content).isInfix)
    · have hfront : word <:+: [] ++ '\n' :: scrub rest := hin
      rcases infix_of_append_separator hfront hfeed with hnil | hrest
      · exact Or.inl (List.infix_nil.mp hnil ▸ List.nil_infix)
      · exact Or.inr hrest
  · rw [scrub_feed hline hlast] at h
    exact infix_of_append_separator h hfeed

lemma infix_scrub_unlines {word : List Char} (hfeed : '\n' ∉ word) (hreturn : '\r' ∉ word)
    (hne : word ≠ []) {ended : Bool} {ls : List (List Char)} (hls : ∀ line ∈ ls, '\n' ∉ line)
    (h : word <:+: scrub (unlines ended ls)) : ∃ line ∈ ls, word <:+: scrubLine line := by
  induction ls with
  | nil => exact absurd (List.infix_nil.mp h) hne
  | cons line rest ih =>
    rw [List.forall_mem_cons] at hls
    have hcut : word <:+: scrubLine line ∨ word <:+: scrub (unlines ended rest) := by
      cases rest with
      | nil =>
        cases ended with
        | true => exact infix_scrub_line hfeed hreturn hls.1 h
        | false =>
          by_cases hempty : line = []
          · rw [hempty] at h
            exact absurd (List.infix_nil.mp h) hne
          · have hline : scrub (unlines false [line]) = scrubLine line :=
              scrub_unended hls.1 hempty
            rw [hline] at h
            exact Or.inl h
      | cons next rest => exact infix_scrub_line hfeed hreturn hls.1 h
    rcases hcut with hline | hrest
    · exact ⟨line, List.mem_cons_self, hline⟩
    · obtain ⟨other, hother, hin⟩ := ih hls.2 hrest
      exact ⟨other, List.mem_cons_of_mem line hother, hin⟩

/-- **Scrubbing a text is scrubbing its lines.** -/
theorem lines_scrub (text : List Char) : lines (scrub text) = (lines text).map scrubLine := by
  induction text using lineInduction with
  | nil => rfl
  | unended content hcontent hne =>
    rw [scrub_unended hcontent hne, lines_unended hcontent hne, List.map_singleton,
      lines_unended (lineFeed_notMem_scrubLine hcontent) (scrubLine_ne_nil hcontent hne)]
  | feed content rest hcontent hreturn ih =>
    rw [scrub_feed hcontent hreturn, lines_feed hcontent hreturn, List.map_cons, ← ih,
      lines_feed (lineFeed_notMem_scrubLine hcontent) (getLast?_scrubLine_ne hcontent hreturn)]
  | returnFeed content rest hcontent ih =>
    rw [scrub_returnFeed hcontent, lines_returnFeed hcontent, List.map_cons, ← ih,
      lines_returnFeed (lineFeed_notMem_scrubLine hcontent)]

/-! ## Text without literals and comments -/

/-- The beginning of a line in which no literal and no comment begins is kept. -/
lemma scrubLine_plain_append {front : List Char} (hquote : '"' ∉ front) (hslash : '/' ∉ front)
    (rest : List Char) : scrubLine (front ++ rest) = front ++ scrubLine rest := by
  induction front with
  | nil => rfl
  | cons c cs ih =>
    rw [List.mem_cons, not_or] at hquote hslash
    have hcode : scrubFrom .code (c :: (cs ++ rest)) = c :: scrubFrom .code (cs ++ rest) := by
      rw [scrubFrom]
      · exact fun _ hc => absurd hc.symm hslash.1
      · exact fun hc => hquote.1 hc.symm
    rw [List.cons_append, scrubLine, hcode, ← scrubLine, ih hquote.2 hslash.2, List.cons_append]

lemma scrubLine_comment (text : List Char) :
    scrubLine ('/' :: '/' :: text) = blanked ('/' :: '/' :: text) := by
  rw [scrubLine, scrubFrom]

lemma scrubLine_plain {line : List Char} (hquote : '"' ∉ line) (hslash : '/' ∉ line) :
    scrubLine line = line := by
  have h := scrubLine_plain_append hquote hslash []
  rwa [List.append_nil, show scrubLine [] = [] from rfl, List.append_nil] at h

lemma scrub_plain {text : List Char} (hquote : '"' ∉ text) (hslash : '/' ∉ text) :
    scrub text = text := by
  have hpieces : ∀ piece ∈ pieces text,
      scrubLine (splitTerminator piece).1 ++ (splitTerminator piece).2 = id piece := by
    intro piece hpiece
    have hmem : ∀ c ∈ (splitTerminator piece).1, c ∈ text := by
      intro c hc
      rw [← flatten_pieces text]
      refine List.mem_flatten.mpr ⟨piece, hpiece, ?_⟩
      rw [← splitTerminator_append piece]
      exact List.mem_append_left _ hc
    rw [scrubLine_plain (fun h => hquote (hmem _ h)) (fun h => hslash (hmem _ h)),
      splitTerminator_append, id_eq]
  rw [scrub, List.flatMap_def, List.map_congr_left hpieces, List.map_id, flatten_pieces]

end LanguageServer.Source
