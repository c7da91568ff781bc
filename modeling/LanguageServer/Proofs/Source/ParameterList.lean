import LanguageServer.Proofs.Source.Marks
import LanguageServer.Proofs.Source.Symbol
import LanguageServer.Proofs.Text.Boundary

/-!
# Parameter lists as they are written

The parameter list of a declaration is looked for in the scrubbed text and taken from the text as it
is written, where it may hold comments and literals.  It is cut into parameters as it is written as
well: every comma cuts, whatever it belongs to.  This file compares the two views of a list.  One of
them is the list with its marks (`IsListOf`), whose parameters are `markedParameters`; the other is
what is visible of it, with its `segments`.

A comma of the code cuts both, so they are compared from one such comma to the next.  In between
there is at most one visible segment.  A comma in a literal cuts the parameters further, and both
halves keep a quote of the literal, so neither is blank (`Enclosed.two_le_length`).  A comment
begins with slashes, which stay in some parameter (`slash_mem_of_comment`).  The views therefore
agree on the lists that hold neither, and only there (`Enclosed.plain_iff`).
-/

namespace LanguageServer.Symbol

open Text Source

/-! ## Segments -/

/-- What stands between the commas of a text, trimmed, without what is blank. -/
def segments (cs : List Char) : List (List Char) :=
  ((splitOn ',' cs).map trim).filter (· ≠ [])

lemma segments_append (before after : List Char) :
    segments (before ++ ',' :: after) = segments before ++ segments after := by
  rw [segments, splitOn_append, List.map_append, List.filter_append, segments, segments]

lemma segments_of_notMem {cs : List Char} (h : ',' ∉ cs) :
    segments cs = [trim cs].filter (· ≠ []) := by
  rw [segments, splitOn_of_notMem h, List.map_singleton]

lemma segments_append_blanks {lead rest : List Char} (hlead : ∀ c ∈ lead, isBlank c = true)
    (hrest : ∀ c ∈ rest, isBlank c = true) (cs : List Char) :
    segments (lead ++ cs ++ rest) = segments cs := by
  have hcomma {blanks : List Char} (hblanks : ∀ c ∈ blanks, isBlank c = true) : ',' ∉ blanks :=
    fun hmem => absurd (hblanks ',' hmem) (by decide)
  induction cs using splitInduction (· == ',') generalizing lead rest with
  | unsplit part hpart =>
    have hplain : ',' ∉ part := fun hmem => absurd (hpart ',' hmem) (by decide)
    rw [segments_of_notMem, trim_append_blanks hlead hrest, segments_of_notMem hplain]
    simp [hcomma hlead, hcomma hrest, hplain]
  | split part c cs hc ihpart ihrest =>
    obtain rfl : c = ',' := beq_iff_eq.mp hc
    have hfront := ihpart hlead (List.forall_mem_nil _)
    have hback := ihrest (List.forall_mem_nil _) hrest
    rw [List.append_nil] at hfront
    rw [List.nil_append] at hback
    rw [← List.append_assoc lead, List.append_assoc _ _ rest, List.cons_append, segments_append,
      hfront, hback, segments_append]

lemma segments_trim (cs : List Char) : segments (trim cs) = segments cs := by
  obtain ⟨lead, rest, hcs, hlead, hrest⟩ := exists_ends isBlank cs
  conv => rhs; rw [hcs]
  exact (segments_append_blanks hlead hrest (trim cs)).symm

/-! ## Marked parameters -/

/-- The marked text without the blanks at either end. -/
def trimMarked (marked : List (Char × Mark)) : List (Char × Mark) :=
  ((marked.dropWhile (isBlank ∘ Prod.fst)).reverse.dropWhile (isBlank ∘ Prod.fst)).reverse

/-- Is the marked character a comma? -/
def isComma (entry : Char × Mark) : Bool :=
  entry.1 == ','

/-- The parameters of a list with its marks: what stands between any two of its commas, trimmed,
without what is blank. -/
def markedParameters (list : List (Char × Mark)) : List (List (Char × Mark)) :=
  ((list.splitOnP isComma).map trimMarked).filter (· ≠ [])

lemma markedParameters_append {comma : Char × Mark} (hcomma : isComma comma = true)
    (before after : List (Char × Mark)) :
    markedParameters (before ++ comma :: after) =
      markedParameters before ++ markedParameters after := by
  rw [markedParameters, List.splitOnP_append_cons before after hcomma, List.map_append,
    List.filter_append, markedParameters, markedParameters]

lemma markedParameters_of_not_isComma {list : List (Char × Mark)}
    (h : ∀ entry ∈ list, isComma entry = false) :
    markedParameters list = [trimMarked list].filter (· ≠ []) := by
  rw [markedParameters, List.splitOnP_eq_singleton h, List.map_singleton]

lemma map_fst_trimMarked (marked : List (Char × Mark)) :
    (trimMarked marked).map Prod.fst = trim (marked.map Prod.fst) := by
  rw [trimMarked, trim, trimStart, trimEnd, List.dropWhile_map, ← List.map_reverse,
    List.dropWhile_map, List.map_reverse]

lemma exists_trimMarked (marked : List (Char × Mark)) :
    ∃ lead rest, marked = lead ++ trimMarked marked ++ rest ∧
      (∀ entry ∈ lead, isBlank entry.1 = true) ∧ ∀ entry ∈ rest, isBlank entry.1 = true :=
  exists_ends (isBlank ∘ Prod.fst) marked

lemma trimMarked_eq_nil_iff {marked : List (Char × Mark)} :
    trimMarked marked = [] ↔ ∀ entry ∈ marked, isBlank entry.1 = true := by
  rw [← @List.map_eq_nil_iff _ _ Prod.fst, map_fst_trimMarked, trim_eq_nil_iff, isBlankText,
    List.all_map, List.all_eq_true]
  rfl

lemma map_fst_markedParameters (list : List (Char × Mark)) :
    (markedParameters list).map (List.map Prod.fst) = segments (list.map Prod.fst) := by
  induction list using splitInduction isComma with
  | unsplit part hpart =>
    have hcomma : ',' ∉ part.map Prod.fst := by
      intro hmem
      obtain ⟨entry, hentry, hfst⟩ := List.mem_map.mp hmem
      have hne := hpart entry hentry
      rw [isComma, hfst] at hne
      cases hne
    rw [markedParameters_of_not_isComma hpart, segments_of_notMem hcomma, ← map_fst_trimMarked]
    by_cases hnil : trimMarked part = []
    · simp [hnil]
    · simp [hnil]
  | split part comma rest hcomma ihpart ihrest =>
    rw [markedParameters_append hcomma, List.map_append, ihpart, ihrest, List.map_append,
      List.map_cons, beq_iff_eq.mp hcomma, segments_append]

lemma exists_mem_markedParameters {list : List (Char × Mark)} {entry : Char × Mark}
    (hmem : entry ∈ list) (hblank : isBlank entry.1 = false) (hcomma : isComma entry = false) :
    ∃ parameter ∈ markedParameters list, entry ∈ parameter := by
  induction list using splitInduction isComma with
  | unsplit part hpart =>
    obtain ⟨lead, rest, hends, hlead, hrest⟩ := exists_trimMarked part
    have hin : entry ∈ trimMarked part := by
      rw [hends, List.mem_append, List.mem_append] at hmem
      rcases hmem with (hmem | hmem) | hmem
      · exact absurd (hlead entry hmem) (Bool.eq_false_iff.mp hblank)
      · exact hmem
      · exact absurd (hrest entry hmem) (Bool.eq_false_iff.mp hblank)
    refine ⟨trimMarked part, ?_, hin⟩
    rw [markedParameters_of_not_isComma hpart, List.mem_filter]
    exact ⟨List.mem_singleton_self _, decide_eq_true (List.ne_nil_of_mem hin)⟩
  | split part comma rest hsplit ihpart ihrest =>
    rw [markedParameters_append hsplit]
    rw [List.mem_append, List.mem_cons] at hmem
    rcases hmem with hmem | rfl | hmem
    · obtain ⟨parameter, hparameter, hin⟩ := ihpart hmem
      exact ⟨parameter, List.mem_append_left _ hparameter, hin⟩
    · rw [hcomma] at hsplit
      cases hsplit
    · obtain ⟨parameter, hparameter, hin⟩ := ihrest hmem
      exact ⟨parameter, List.mem_append_right _ hparameter, hin⟩

lemma mem_of_mem_markedParameters {list parameter : List (Char × Mark)}
    (hparameter : parameter ∈ markedParameters list) {entry : Char × Mark}
    (hentry : entry ∈ parameter) : entry ∈ list := by
  induction list using splitInduction isComma with
  | unsplit part hpart =>
    rw [markedParameters_of_not_isComma hpart, List.mem_filter, List.mem_singleton] at hparameter
    obtain ⟨lead, rest, hends, -, -⟩ := exists_trimMarked part
    rw [hends, ← hparameter.1]
    exact List.mem_append_left _ (List.mem_append_right _ hentry)
  | split part comma rest hcomma ihpart ihrest =>
    rw [markedParameters_append hcomma, List.mem_append] at hparameter
    rcases hparameter with hparameter | hparameter
    · exact List.mem_append_left _ (ihpart hparameter)
    · exact List.mem_append_right _ (List.mem_cons_of_mem _ (ihrest hparameter))

/-! ## What is visible of a list -/

lemma isBlank_of_mem_visible {entry : Char × Mark} {c : Char} (hc : c ∈ visible entry)
    (h : entry.2 = .code → isBlank entry.1 = true) : isBlank c = true := by
  unfold visible at hc
  split at hc
  · rename_i hmark
    rw [List.mem_singleton.mp hc, h hmark]
  · rw [List.eq_of_mem_replicate hc]
    decide

lemma isBlankText_flatMap_visible_iff {marked : List (Char × Mark)} :
    isBlankText (marked.flatMap visible) = true ↔
      ∀ c, (c, .code) ∈ marked → isBlank c = true := by
  rw [isBlankText, List.all_eq_true]
  constructor
  · intro h c hc
    exact h c (List.mem_flatMap.mpr ⟨(c, .code), hc, List.mem_singleton_self c⟩)
  · intro h c hc
    obtain ⟨entry, hentry, hvisible⟩ := List.mem_flatMap.mp hc
    refine isBlank_of_mem_visible hvisible fun hmark => h entry.1 ?_
    rwa [← hmark]

lemma comma_notMem_flatMap_visible {marked : List (Char × Mark)} (h : (',', .code) ∉ marked) :
    ',' ∉ marked.flatMap visible := by
  intro hmem
  obtain ⟨front, back, hmarked⟩ := List.append_of_mem hmem
  obtain ⟨front, back, rfl, -⟩ := exists_of_flatMap_visible (by decide) hmarked
  exact h (by simp)

lemma trim_flatMap_visible_trimMarked (marked : List (Char × Mark)) :
    trim ((trimMarked marked).flatMap visible) = trim (marked.flatMap visible) := by
  have hblank {ends : List (Char × Mark)} (hends : ∀ entry ∈ ends, isBlank entry.1 = true) :
      ∀ c ∈ ends.flatMap visible, isBlank c = true := by
    intro c hc
    obtain ⟨entry, hentry, hvisible⟩ := List.mem_flatMap.mp hc
    exact isBlank_of_mem_visible hvisible fun _ => hends entry hentry
  obtain ⟨lead, rest, hmarked, hlead, hrest⟩ := exists_trimMarked marked
  conv => rhs; rw [hmarked]
  rw [List.flatMap_append, List.flatMap_append, trim_append_blanks (hblank hlead) (hblank hrest)]

/-! ## Literals and comments in a list -/

lemma quote_mem_before {c d : Char} (hc : c ≠ '"') {list : List (Char × Mark)}
    (h : ((c, .code) :: (list ++ [(d, .literal)])).IsChain Adjoins) : ('"', .code) ∈ list := by
  induction list using List.reverseRecOn generalizing d with
  | nil =>
    rcases (List.isChain_cons_cons.mp h).1.literal_begins rfl with hmark | hquote
    · cases hmark
    · cases hquote
      exact absurd rfl hc
  | append_singleton list entry ih =>
    rw [List.append_assoc, List.singleton_append, ← List.cons_append, List.isChain_split] at h
    obtain ⟨hlist, hlast⟩ := h
    rcases (List.isChain_cons_cons.mp hlast).1.literal_begins rfl with hmark | rfl
    · obtain ⟨e, mark⟩ := entry
      cases hmark
      exact List.mem_append_left _ (ih hlist)
    · exact List.mem_append_right _ (List.mem_singleton_self _)

lemma quote_mem_after {c d : Char} (hd : d ≠ '"') {list : List (Char × Mark)}
    (h : ((c, .literal) :: (list ++ [(d, .code)])).IsChain Adjoins) : ('"', .code) ∈ list := by
  induction list generalizing c with
  | nil =>
    rcases (List.isChain_cons_cons.mp h).1.literal_ends rfl with hmark | hquote
    · cases hmark
    · cases hquote
      exact absurd rfl hd
  | cons entry list ih =>
    obtain ⟨hfirst, hlist⟩ := List.isChain_cons_cons.mp h
    rcases hfirst.literal_ends rfl with hmark | rfl
    · obtain ⟨e, mark⟩ := entry
      cases hmark
      exact List.mem_cons_of_mem _ (ih hlist)
    · exact List.mem_cons_self

lemma slash_mem_of_comment {entry : Char × Mark} (hentry : entry.2 ≠ .comment)
    {list : List (Char × Mark)} (h : (entry :: list).IsChain Adjoins) {comment : Char × Mark}
    (hmem : comment ∈ list) (hcomment : comment.2 = .comment) : ('/', .comment) ∈ list := by
  induction list generalizing entry with
  | nil => cases hmem
  | cons first list ih =>
    obtain ⟨hfirst, hlist⟩ := List.isChain_cons_cons.mp h
    by_cases hmark : first.2 = .comment
    · have hslash := (hfirst.comment hmark).resolve_left hentry
      rw [← hslash, ← hmark]
      exact List.mem_cons_self
    · rcases List.mem_cons.mp hmem with rfl | hmem
      · exact absurd hcomment hmark
      · exact List.mem_cons_of_mem _ (ih hmark hlist hmem)

/-- The list stands between two characters of code that are no quotes. -/
def Enclosed (list : List (Char × Mark)) : Prop :=
  ∃ c d, c ≠ '"' ∧ d ≠ '"' ∧ ((c, .code) :: (list ++ [(d, .code)])).IsChain Adjoins

lemma Enclosed.of_append {part rest : List (Char × Mark)}
    (h : Enclosed (part ++ (',', .code) :: rest)) : Enclosed part ∧ Enclosed rest := by
  obtain ⟨c, d, hc, hd, hchain⟩ := h
  rw [List.append_assoc, List.cons_append, ← List.cons_append, List.isChain_split] at hchain
  exact ⟨⟨c, ',', hc, by decide, hchain.1⟩, ⟨',', d, by decide, hd, hchain.2⟩⟩

/-- Literals in a list have their quotes in it, on both sides. -/
lemma Enclosed.quotes {before after : List (Char × Mark)} {c : Char}
    (h : Enclosed (before ++ (c, .literal) :: after)) :
    ('"', .code) ∈ before ∧ ('"', .code) ∈ after := by
  obtain ⟨_, _, hc, hd, hchain⟩ := h
  rw [List.append_assoc, List.cons_append, ← List.cons_append, List.isChain_split] at hchain
  exact ⟨quote_mem_before hc hchain.1, quote_mem_after hd hchain.2⟩

lemma length_markedParameters_pos {list : List (Char × Mark)} {c : Char} (hmem : (c, .code) ∈ list)
    (hblank : isBlank c = false) (hcomma : c ≠ ',') : 0 < (markedParameters list).length := by
  obtain ⟨parameter, hparameter, -⟩ :=
    exists_mem_markedParameters hmem hblank (beq_eq_false_iff_ne.mpr hcomma)
  exact List.length_pos_of_mem hparameter

/-- A comma in a literal makes two parameters of one. -/
lemma Enclosed.two_le_length {list : List (Char × Mark)} (h : Enclosed list)
    (hmem : (',', .literal) ∈ list) : 2 ≤ (markedParameters list).length := by
  obtain ⟨before, after, rfl⟩ := List.append_of_mem hmem
  obtain ⟨hbefore, hafter⟩ := h.quotes
  have hleft := length_markedParameters_pos hbefore (by decide) (by decide)
  have hright := length_markedParameters_pos hafter (by decide) (by decide)
  rw [markedParameters_append rfl, List.length_append]
  omega

/-- Is the marked character a comma of the code? -/
def isCodeComma (entry : Char × Mark) : Bool :=
  entry = (',', .code)

lemma notMem_of_not_isCodeComma {part : List (Char × Mark)}
    (h : ∀ entry ∈ part, isCodeComma entry = false) : (',', .code) ∉ part := by
  intro hmem
  have hcomma := h _ hmem
  revert hcomma
  decide

lemma segments_flatMap_visible_append (part rest : List (Char × Mark)) :
    segments ((part ++ (',', .code) :: rest).flatMap visible) =
      segments (part.flatMap visible) ++ segments (rest.flatMap visible) := by
  rw [List.flatMap_append, List.flatMap_cons, visible_code, List.singleton_append, segments_append]

/-- What is visible between two commas of the code is one segment at most, and then there is a
parameter for it. -/
lemma length_segments_le_of_notMem {part : List (Char × Mark)} (h : (',', .code) ∉ part) :
    (segments (part.flatMap visible)).length ≤ 1 ∧
      (segments (part.flatMap visible)).length ≤ (markedParameters part).length := by
  rw [segments_of_notMem (comma_notMem_flatMap_visible h)]
  by_cases hblank : trim (part.flatMap visible) = []
  · simp [hblank]
  · have hcode := hblank
    rw [trim_eq_nil_iff, isBlankText_flatMap_visible_iff, not_forall] at hcode
    obtain ⟨c, hc⟩ := hcode
    obtain ⟨hmem, hvisible⟩ := Classical.not_imp.mp hc
    have hne : c ≠ ',' := fun hcomma => h (hcomma ▸ hmem)
    have hpos := length_markedParameters_pos hmem (Bool.eq_false_iff.mpr hvisible) hne
    simp only [ne_eq, hblank, not_false_eq_true, decide_true, List.filter_cons_of_pos,
      List.filter_nil, List.length_singleton, Nat.le_refl, true_and]
    exact hpos

/-- There are at least as many parameters as visible segments, and more of them if a comma stands in
a literal. -/
lemma Enclosed.length_segments_le {list : List (Char × Mark)} (h : Enclosed list) :
    (segments (list.flatMap visible)).length ≤ (markedParameters list).length ∧
      ((',', .literal) ∈ list →
        (segments (list.flatMap visible)).length < (markedParameters list).length) := by
  induction list using splitInduction isCodeComma with
  | unsplit part hpart =>
    obtain ⟨hone, hle⟩ := length_segments_le_of_notMem (notMem_of_not_isCodeComma hpart)
    refine ⟨hle, fun hmem => ?_⟩
    have htwo := h.two_le_length hmem
    omega
  | split part comma rest hcomma ihpart ihrest =>
    obtain rfl : comma = (',', .code) := of_decide_eq_true hcomma
    obtain ⟨hle, hlt⟩ := ihpart h.of_append.1
    obtain ⟨hle', hlt'⟩ := ihrest h.of_append.2
    rw [segments_flatMap_visible_append, markedParameters_append rfl, List.length_append,
      List.length_append]
    refine ⟨by omega, fun hmem => ?_⟩
    rw [List.mem_append, List.mem_cons] at hmem
    rcases hmem with hmem | hmem | hmem
    · have hmore := hlt hmem
      omega
    · cases hmem
    · have hmore := hlt' hmem
      omega

/-! ## Lists without comments and without commas in literals -/

/-- The list holds no comment, and no comma stands in a literal. -/
structure Plain (list : List (Char × Mark)) : Prop where
  comment : ∀ entry ∈ list, entry.2 ≠ .comment
  literal : (',', .literal) ∉ list

lemma Plain.of_append {part rest : List (Char × Mark)} {comma : Char × Mark}
    (h : Plain (part ++ comma :: rest)) : Plain part ∧ Plain rest := by
  constructor
  · exact ⟨fun entry hentry => h.comment entry (List.mem_append_left _ hentry),
      fun hmem => h.literal (List.mem_append_left _ hmem)⟩
  · exact ⟨fun entry hentry => h.comment entry
        (List.mem_append_right _ (List.mem_cons_of_mem _ hentry)),
      fun hmem => h.literal (List.mem_append_right _ (List.mem_cons_of_mem _ hmem))⟩

/-- What is not blank in a list is visible, if only by the quotes around it. -/
lemma Plain.trim_eq_nil_iff {list : List (Char × Mark)} (h : Plain list) (hlist : Enclosed list) :
    trim (list.flatMap visible) = [] ↔ trimMarked list = [] := by
  rw [Text.trim_eq_nil_iff, isBlankText_flatMap_visible_iff, trimMarked_eq_nil_iff]
  constructor
  · rintro hcode ⟨c, mark⟩ hentry
    cases mark with
    | code => exact hcode c hentry
    | literal =>
      obtain ⟨before, after, rfl⟩ := List.append_of_mem hentry
      exact absurd (hcode '"' (List.mem_append_left _ hlist.quotes.1)) (by decide)
    | comment => exact absurd rfl (h.comment _ hentry)
  · exact fun hblank c hc => hblank (c, .code) hc

/-- **Parameters of a plain list are what is visible between its commas.** -/
lemma Plain.map_visible_markedParameters {list : List (Char × Mark)} (h : Plain list)
    (hlist : Enclosed list) :
    (markedParameters list).map (fun parameter => trim (parameter.flatMap visible)) =
      segments (list.flatMap visible) := by
  induction list using splitInduction isCodeComma with
  | unsplit part hpart =>
    have hcode := notMem_of_not_isCodeComma hpart
    have hcomma : ∀ entry ∈ part, isComma entry = false := by
      rintro ⟨c, mark⟩ hentry
      rw [isComma, beq_eq_false_iff_ne]
      rintro rfl
      cases mark with
      | code => exact hcode hentry
      | literal => exact h.literal hentry
      | comment => exact h.comment _ hentry rfl
    rw [markedParameters_of_not_isComma hcomma,
      segments_of_notMem (comma_notMem_flatMap_visible hcode)]
    by_cases hnil : trimMarked part = []
    · simp [hnil, (h.trim_eq_nil_iff hlist).mpr hnil]
    · simp [hnil, (h.trim_eq_nil_iff hlist).not.mpr hnil, trim_flatMap_visible_trimMarked]
  | split part comma rest hcomma ihpart ihrest =>
    obtain rfl : comma = (',', .code) := of_decide_eq_true hcomma
    rw [markedParameters_append rfl, List.map_append, ihpart h.of_append.1 hlist.of_append.1,
      ihrest h.of_append.2 hlist.of_append.2, segments_flatMap_visible_append]

/-- There are as many parameters as visible segments, and none of them has text of a comment, in
plain lists and in no others. -/
lemma Enclosed.plain_iff {list : List (Char × Mark)} (h : Enclosed list) :
    (markedParameters list).length = (segments (list.flatMap visible)).length ∧
      (∀ parameter ∈ markedParameters list, ∀ entry ∈ parameter, entry.2 ≠ .comment) ↔
    Plain list := by
  constructor
  · rintro ⟨hlength, hcomments⟩
    refine ⟨fun entry hentry hmark => ?_, fun hmem => ?_⟩
    · obtain ⟨c, d, -, -, hchain⟩ := h
      rw [← List.cons_append] at hchain
      have hstart : (c, Mark.code).2 ≠ .comment := Mark.noConfusion
      have hslash := slash_mem_of_comment hstart hchain.left_of_append hentry hmark
      obtain ⟨parameter, hparameter, hin⟩ :=
        exists_mem_markedParameters hslash (by decide) (by decide)
      exact hcomments parameter hparameter _ hin rfl
    · have hless := h.length_segments_le.2 hmem
      omega
  · intro hplain
    refine ⟨?_, fun parameter hparameter entry hentry =>
      hplain.comment entry (mem_of_mem_markedParameters hparameter hentry)⟩
    rw [← hplain.map_visible_markedParameters h, List.length_map]

/-! ## Lists of declarations -/

/-- The parameter list of a declaration begins as many bytes after it as the head says. -/
lemma parametersAt_of_head? {cs rest : List Char} {head : Head} (h : head? cs = some (head, rest)) :
    head.parametersAt = byteLength cs - byteLength (head.parameters ++ ')' :: rest) := by
  simp only [head?, Option.bind_eq_bind, Option.bind_eq_some_iff] at h
  split at h
  all_goals
    obtain ⟨_, -, _, -, _, -, list, -, rest, hclose, hhead⟩ := h
    cases hhead
    have hlist : list = list.takeWhile (· != ')') ++ ')' :: rest := by
      rw [← List.singleton_append, ← strip?_eq_some_iff.mp hclose,
        List.takeWhile_append_dropWhile]
    rw [← hlist]

/-- The marked text is the parameter list of the declaration as it is written: it stands at the
place that the head gives, between a parenthesis of the code and the next closing one, and what is
visible of it is what was found in the scrubbed text. -/
structure IsListOf (text : List Char) (found : Found Head) (list : List (Char × Mark)) : Prop where
  stands : ∃ front back, markText text = front ++ ('(', .code) :: list ++ (')', .code) :: back ∧
    byteLength (front.map Prod.fst) + 1 = byteLength found.before + found.value.parametersAt
  closed : (')', .code) ∉ list
  visible : list.flatMap visible = found.value.parameters

lemma exists_isListOf {text : List Char} {found : Found Head}
    (h : found ∈ findAll wordStart head? (scrub text)) : ∃ list, IsListOf text found list := by
  obtain ⟨input, rest, htext, -, hread⟩ := read_of_mem_findAll h
  obtain ⟨-, hclosed, lead, gap, blanks, hinput, -⟩ := spells_of_head? hread
  have hat := parametersAt_of_head? hread
  generalize lead ++ functionKeyword ++ gap ++ found.value.name ++ blanks = signature at hinput
  rw [← flatMap_visible_markText, hinput, ← List.append_assoc, ← List.append_assoc] at htext
  obtain ⟨front, list, back, hmarked, hfront, hlist⟩ :=
    exists_between_of_flatMap_visible (by decide) (by decide) htext
  refine ⟨list, ⟨front, back, hmarked, ?_⟩, code_notMem_of_visible (hlist ▸ hclosed), hlist⟩
  have hopen : '('.utf8Size = 1 := rfl
  rw [hat, hinput, ← byteLength_flatMap_visible, hfront, List.append_assoc, List.cons_append,
    byteLength_append, byteLength_append signature, byteLength_cons, hopen]
  omega

namespace IsListOf

variable {text : List Char} {found : Found Head} {list : List (Char × Mark)}

lemma enclosed (h : IsListOf text found list) : Enclosed list := by
  obtain ⟨front, back, hmarked, -⟩ := h.stands
  have hchain := isChain_markText ' ' text
  rw [hmarked, List.append_assoc, List.cons_append, ← List.cons_append,
    List.isChain_split] at hchain
  have hlist := hchain.2
  rw [← List.cons_append, List.isChain_split] at hlist
  exact ⟨'(', ')', by decide, by decide, hlist.1⟩

lemma exists_append (h : IsListOf text found list) :
    ∃ front back, text = front ++ list.map Prod.fst ++ back ∧
      byteLength front = byteLength found.before + found.value.parametersAt ∧
      byteLength (list.map Prod.fst) = byteLength found.value.parameters := by
  obtain ⟨front, back, hmarked, hfront⟩ := h.stands
  refine ⟨front.map Prod.fst ++ ['('], ')' :: back.map Prod.fst, ?_, ?_, ?_⟩
  · rw [← map_fst_markText text, hmarked]
    simp
  · rw [← hfront, byteLength_append]
    rfl
  · rw [← byteLength_flatMap_visible, h.visible]

lemma rawParameters (h : IsListOf text found list) (qualifier : Option String) :
    (ofFound text qualifier found).rawParameters = String.ofList (trim (list.map Prod.fst)) := by
  obtain ⟨front, back, htext, hfront, hlength⟩ := h.exists_append
  have hslice := sliceBytes_append front (list.map Prod.fst) back
  rw [← htext, byteLength_append, hfront, hlength] at hslice
  simp only [ofFound]
  rw [hslice]

/-- **The labels are the parameters of the list as it is written.** -/
lemma parameterLabels (h : IsListOf text found list) (qualifier : Option String) :
    (ofFound text qualifier found).parameterLabels =
      (markedParameters list).map fun parameter => String.ofList (parameter.map Prod.fst) := by
  have hsegments : (ofFound text qualifier found).parameterLabels =
      (segments (list.map Prod.fst)).map String.ofList := by
    rw [← segments_trim, Symbol.parameterLabels, h.rawParameters, Parameter.split,
      String.toList_ofList, segments]
  rw [hsegments, ← map_fst_markedParameters, List.map_map]
  rfl

end IsListOf

/-- **Labels and visible segments.**  The labels of a function are what its parameter list, as it is
written, is cut into at its commas.  They are as many as the segments that are visible in the
scrubbed list, with no text of a comment in them, exactly when the list holds no comment and no
comma in a literal; and then they are these segments, in order. -/
theorem parameterLabels_visible_iff {text : String} {qualifier : Option String} {scope : Scope}
    {symbol : Symbol} (h : symbol ∈ scan text qualifier scope) :
    ∃ found ∈ findAll wordStart head? (scrub text.toList),
      symbol = ofFound text.toList qualifier found ∧
      ∃ list, IsListOf text.toList found list ∧
        (symbol.parameterLabels =
          (markedParameters list).map fun parameter => String.ofList (parameter.map Prod.fst)) ∧
        (symbol.parameterLabels.length = (segments found.value.parameters).length ∧
            (∀ parameter ∈ markedParameters list, ∀ entry ∈ parameter, entry.2 ≠ .comment) ↔
          Plain list) ∧
        (Plain list →
          (markedParameters list).map (fun parameter => trim (parameter.flatMap visible)) =
            segments found.value.parameters) := by
  obtain ⟨found, hfound, rfl⟩ := List.mem_map.mp h
  obtain ⟨hmem, -⟩ := List.mem_filter.mp hfound
  obtain ⟨list, hlist⟩ := exists_isListOf hmem
  have hlabels := hlist.parameterLabels qualifier
  refine ⟨found, hmem, rfl, list, hlist, hlabels, ?_, fun hplain => ?_⟩
  · rw [hlabels, List.length_map, ← hlist.visible]
    exact hlist.enclosed.plain_iff
  · rw [← hlist.visible]
    exact hplain.map_visible_markedParameters hlist.enclosed

/-- A function whose list holds a literal. -/
theorem quotedSymbol_labels_visible :
    let text := "fn f(a = \"x\", b) \x7b\x7d"
    let symbol : Symbol :=
      { name := "f"
        qualifiedName := "f"
        rawParameters := "a = \"x\", b"
        documentation := "Private function."
        visibility := .internal
        location := ⟨none, 0⟩ }
    symbol ∈ scan text none .current ∧
    ∃ found ∈ findAll wordStart head? (scrub text.toList),
      symbol = ofFound text.toList none found ∧
      ∃ list, IsListOf text.toList found list ∧
        (symbol.parameterLabels.length = (segments found.value.parameters).length ∧
            (∀ parameter ∈ markedParameters list, ∀ entry ∈ parameter, entry.2 ≠ .comment) ↔
          Plain list) := by
  intro text symbol
  have hscan : symbol ∈ scan text none .current := by decide +kernel
  obtain ⟨found, hfound, hsymbol, list, hlist, -, hiff, -⟩ := parameterLabels_visible_iff hscan
  exact ⟨hscan, found, hfound, hsymbol, list, hlist, hiff⟩

/-- With commas in a comment and in a literal, a list of two segments in scrubbed form has four
labels, one of which is text of the comment. -/
theorem commaInComment_labels :
    let text := "fn f(a, // x, y\n b = \"p, q\") \x7b\x7d"
    ∃ found ∈ findAll wordStart head? (scrub text.toList),
      ofFound text.toList none found ∈ scan text none .current ∧
      (ofFound text.toList none found).parameterLabels.length ≠
        (segments found.value.parameters).length ∧
      segments found.value.parameters = [['a'], "b = \"    \"".toList] ∧
      (ofFound text.toList none found).parameterLabels =
        ["a", "// x", "y\n b = \"p", "q\""] := by
  decide +kernel

end LanguageServer.Symbol
