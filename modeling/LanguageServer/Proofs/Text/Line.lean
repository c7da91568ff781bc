import LanguageServer.Proofs.Text.Measure
import LanguageServer.Text.Line
import LanguageServer.Text.Split

/-!
# Texts on which the two notions of line agree

Query lines end with a line feed only, edit lines with any line break.  On a text with *plain
breaks*, where every carriage return stands before a line feed and no other break occurs, the edit
lines are the query lines with their terminators, and after a final line feed one more line that is
empty (`PlainBreaks.editLines_eq`).

A line of such a text is a body without breaks followed by its terminator (`PlainBreaks.piece_eq`),
so the two ways to take off the end of a line give the same body (`splitTerminator_body` and
`withoutBreaks_body`).

`lineInduction` takes a text apart query line by query line, one case for each way in which a line
ends.  After a text that ends with a line feed the lines are cut anew (`lines_append`), and a text
that is written line by line is cut into the lines that were written, less a carriage return at the
end of a line (`lines_unlines`).
-/

namespace LanguageServer.Text

/-- The breaks that end an edit line and never a query line. -/
def rareBreaks : List Char := ['\x0b', '\x0c', '\u0085', '\u2028', '\u2029']

/-- Line feeds, alone or after a carriage return, are the only breaks of the text. -/
structure PlainBreaks (cs : List Char) : Prop where
  /-- Every carriage return is followed by a line feed. -/
  paired : ∀ i, cs[i]? = some '\r' → cs[i + 1]? = some '\n'
  noRare : ∀ c ∈ cs, c ∉ rareBreaks

namespace PlainBreaks

variable {c : Char} {cs : List Char}

lemma tail (h : PlainBreaks (c :: cs)) : PlainBreaks cs where
  paired i hi := by simpa using h.paired (i + 1) (by simpa using hi)
  noRare d hd := h.noRare d (List.mem_cons_of_mem c hd)

/-- A text that begins with a carriage return goes on with a line feed. -/
lemma head_return (h : PlainBreaks ('\r' :: cs)) : ∃ ds, cs = '\n' :: ds := by
  have hnext : cs[0]? = some '\n' := by simpa using h.paired 0 (by simp)
  cases cs with
  | nil => simp at hnext
  | cons d ds => exact ⟨ds, by simpa using hnext⟩

lemma head_not_break (h : PlainBreaks (c :: cs)) (hfeed : c ≠ '\n') (hreturn : c ≠ '\r') :
    isBreak c = false := by
  have hrare := h.noRare c (by simp)
  simp only [rareBreaks, List.mem_cons, List.not_mem_nil, or_false, not_or] at hrare
  obtain ⟨hvt, hff, hnel, hls, hps⟩ := hrare
  simp [isBreak, hfeed, hreturn, hvt, hff, hnel, hls, hps]

end PlainBreaks

/-! ## Both cuts of a text -/

@[simp] lemma pieces_lineFeed (cs : List Char) : pieces ('\n' :: cs) = ['\n'] :: pieces cs := by
  simp [pieces]

lemma pieces_cons {c : Char} (hc : c ≠ '\n') (cs : List Char) :
    pieces (c :: cs) = (c :: (pieces cs).headD []) :: (pieces cs).tail := by
  rw [pieces, if_neg hc]
  split
  next h => simp [h]
  next p ps h => simp [h]

lemma editLines_ne_nil (cs : List Char) : editLines cs ≠ [] := by
  fun_cases editLines cs <;> simp_all

lemma editLines_cons {c : Char} (hc : isBreak c = false) (cs : List Char) :
    editLines (c :: cs) = (c :: (editLines cs).headD []) :: (editLines cs).tail := by
  have hreturn : c ≠ '\r' := by rintro rfl; simp [isBreak] at hc
  rw [editLines]
  · rw [if_neg (by simp [hc])]
    split
    next h => simp [h]
    next l ls h => simp [h]
  · rintro ds rfl
    exact absurd rfl hreturn

@[simp] lemma editLines_lineFeed (cs : List Char) :
    editLines ('\n' :: cs) = ['\n'] :: editLines cs := by
  rw [editLines]
  · simp [isBreak]
  · simp

/-- Nothing is lost or moved when a text is cut into edit lines. -/
lemma flatten_editLines (cs : List Char) : (editLines cs).flatten = cs := by
  fun_induction editLines cs with
  | case1 => rfl
  | case2 cs ih => simp [ih]
  | case3 c cs _ _ ih => simp [ih]
  | case4 c cs _ _ h ih => exact absurd h (editLines_ne_nil cs)
  | case5 c cs _ _ l ls h ih => simpa [h] using ih

/-! ## Terminators -/

lemma splitTerminator_returnFeed (body : List Char) :
    splitTerminator (body ++ ['\r', '\n']) = (body, ['\r', '\n']) := by
  induction body with
  | nil => rfl
  | cons c body ih =>
    rw [List.cons_append, splitTerminator]
    · rw [ih]
    · intro _ h
      cases body <;> simp at h
    · intro _ h
      simp at h

lemma splitTerminator_feed {body : List Char} (hlast : body.getLast? ≠ some '\r') :
    splitTerminator (body ++ ['\n']) = (body, ['\n']) := by
  induction body with
  | nil => rfl
  | cons c body ih =>
    rw [List.cons_append, splitTerminator]
    · rw [ih]
      intro h
      cases body with
      | nil => simp at h
      | cons d body => exact hlast (by rw [List.getLast?_cons_cons, h])
    · rintro rfl h
      cases body with
      | nil => exact hlast rfl
      | cons d body => simp at h
    · intro _ h
      simp at h

lemma splitTerminator_unended {cs : List Char} (hlast : cs.getLast? ≠ some '\n') :
    splitTerminator cs = (cs, []) := by
  induction cs with
  | nil => rfl
  | cons c cs ih =>
    rw [splitTerminator]
    · rw [ih]
      intro h
      cases cs with
      | nil => simp at h
      | cons d cs => exact hlast (by rw [List.getLast?_cons_cons, h])
    · rintro rfl rfl
      exact hlast rfl
    · rintro rfl rfl
      exact hlast rfl

/-! ## Texts line by line -/

lemma pieces_line {body : List Char} (hbody : '\n' ∉ body) (rest : List Char) :
    pieces (body ++ '\n' :: rest) = (body ++ ['\n']) :: pieces rest := by
  induction body with
  | nil => simp
  | cons c body ih =>
    have hc : c ≠ '\n' := fun h => hbody (by simp [h])
    have htail := ih fun h => hbody (List.mem_cons_of_mem c h)
    rw [List.cons_append, pieces_cons hc, htail]
    simp

lemma pieces_returnFeed {body : List Char} (hbody : '\n' ∉ body) (rest : List Char) :
    pieces (body ++ '\r' :: '\n' :: rest) = (body ++ ['\r', '\n']) :: pieces rest := by
  have h := pieces_line (show '\n' ∉ body ++ ['\r'] by simp [hbody]) rest
  simpa using h

lemma pieces_unended {body : List Char} (hbody : '\n' ∉ body) (hne : body ≠ []) :
    pieces body = [body] := by
  induction body with
  | nil => exact absurd rfl hne
  | cons c body ih =>
    have hc : c ≠ '\n' := fun h => hbody (by simp [h])
    rw [pieces_cons hc]
    cases body with
    | nil => simp [pieces]
    | cons d body => simp [ih (fun h => hbody (List.mem_cons_of_mem c h)) (by simp)]

/-- Induction over the lines of a text: a text is empty, or one line without a line feed, or it
begins with a line that ends with a line feed, without or with a carriage return before it. -/
theorem lineInduction {motive : List Char → Prop} (nil : motive [])
    (unended : ∀ content, '\n' ∉ content → content ≠ [] → motive content)
    (feed : ∀ content rest, '\n' ∉ content → content.getLast? ≠ some '\r' → motive rest →
      motive (content ++ '\n' :: rest))
    (returnFeed : ∀ content rest, '\n' ∉ content → motive rest →
      motive (content ++ '\r' :: '\n' :: rest))
    (text : List Char) : motive text := by
  induction hlength : text.length using Nat.strongRecOn generalizing text with
  | ind n ih =>
    by_cases hfeed : '\n' ∈ text
    · obtain ⟨body, rest, rfl, hbody⟩ := List.eq_append_cons_of_mem hfeed
      have hshorter : rest.length < n := by
        rw [← hlength, List.length_append, List.length_cons]
        omega
      have hrest := ih rest.length hshorter rest rfl
      by_cases hreturn : body.getLast? = some '\r'
      · obtain ⟨content, rfl⟩ := List.getLast?_eq_some_iff.mp hreturn
        rw [List.append_assoc]
        exact returnFeed content rest (fun h => hbody (List.mem_append_left _ h)) hrest
      · exact feed body rest hbody hreturn hrest
    · by_cases hne : text = []
      · exact hne ▸ nil
      · exact unended text hfeed hne

lemma lines_feed {content : List Char} (hcontent : '\n' ∉ content)
    (hreturn : content.getLast? ≠ some '\r') (rest : List Char) :
    lines (content ++ '\n' :: rest) = content :: lines rest := by
  rw [lines, pieces_line hcontent, List.map_cons, splitTerminator_feed hreturn, lines]

lemma lines_returnFeed {content : List Char} (hcontent : '\n' ∉ content) (rest : List Char) :
    lines (content ++ '\r' :: '\n' :: rest) = content :: lines rest := by
  rw [lines, pieces_returnFeed hcontent, List.map_cons, splitTerminator_returnFeed, lines]

lemma lines_unended {content : List Char} (hcontent : '\n' ∉ content) (hne : content ≠ []) :
    lines content = [content] := by
  have hlast : content.getLast? ≠ some '\n' := fun h => hcontent (List.mem_of_getLast? h)
  rw [lines, pieces_unended hcontent hne, List.map_singleton, splitTerminator_unended hlast]

/-! ## Texts that end with their last line -/

/-- The text is empty or ends with a line feed. -/
def Ended (cs : List Char) : Prop :=
  ∀ c ∈ cs.getLast?, c = '\n'

lemma Ended.tail {c : Char} {cs : List Char} (h : Ended (c :: cs)) : Ended cs := by
  cases cs with
  | nil => simp [Ended]
  | cons d ds => simpa [Ended, List.getLast?_cons_cons] using h

lemma Ended.mem {cs : List Char} (h : Ended cs) (hne : cs ≠ []) : '\n' ∈ cs := by
  have hlast := h _ (List.getLast?_eq_some_getLast hne)
  exact hlast ▸ List.getLast_mem hne

lemma ended_nil : Ended [] := by
  simp [Ended]

lemma ended_feed (cs : List Char) : Ended (cs ++ ['\n']) := by
  simp [Ended]

lemma Ended.append {cs ds : List Char} (hcs : Ended cs) (hds : Ended ds) : Ended (cs ++ ds) := by
  cases hlast : ds.getLast? with
  | none =>
    have hnil : ds = [] := List.getLast?_eq_none_iff.mp hlast
    rwa [hnil, List.append_nil]
  | some c =>
    intro d hd
    rw [List.getLast?_append, hlast, Option.some_or] at hd
    exact hds d (hlast.trans hd)

lemma Ended.of_append {cs ds : List Char} (h : Ended (cs ++ ds)) : Ended ds := by
  intro c hc
  refine h c ?_
  rw [List.getLast?_append, Option.mem_def.mp hc]
  rfl

/-- An ended text is cut into query lines on its own, whatever follows it. -/
lemma pieces_append {cs : List Char} (h : Ended cs) (rest : List Char) :
    pieces (cs ++ rest) = pieces cs ++ pieces rest := by
  induction cs with
  | nil => rfl
  | cons c cs ih =>
    have htail := ih h.tail
    by_cases hc : c = '\n'
    · rw [hc, List.cons_append, pieces_lineFeed, pieces_lineFeed, htail, List.cons_append]
    · have hne : pieces cs ≠ [] := by
        intro hnil
        have hcs : cs = [] := by rw [← flatten_pieces cs, hnil, List.flatten_nil]
        rw [hcs] at h
        exact hc (h c rfl)
      obtain ⟨first, others, hpieces⟩ := List.exists_cons_of_ne_nil hne
      rw [List.cons_append, pieces_cons hc, pieces_cons hc, htail, hpieces]
      rfl

lemma lines_append {cs : List Char} (h : Ended cs) (rest : List Char) :
    lines (cs ++ rest) = lines cs ++ lines rest := by
  rw [lines, pieces_append h, List.map_append, lines, lines]

lemma length_lines {cs : List Char} (h : Ended cs) : (lines cs).length = lineFeeds cs := by
  induction cs using lineInduction with
  | nil => rfl
  | unended content hcontent hne => exact absurd (h.mem hne) hcontent
  | feed content rest hcontent hreturn ih =>
    have hrest := ih h.of_append.tail
    rw [lines_feed hcontent hreturn, List.length_cons, hrest, lineFeeds, lineFeeds,
      List.count_append, List.count_eq_zero.mpr hcontent, List.count_cons_self, Nat.zero_add]
  | returnFeed content rest hcontent ih =>
    have hrest := ih h.of_append.tail.tail
    rw [lines_returnFeed hcontent, List.length_cons, hrest, lineFeeds, lineFeeds,
      List.count_append, List.count_eq_zero.mpr hcontent, List.count_cons_of_ne (by decide),
      List.count_cons_self, Nat.zero_add]

/-- A text that goes on behind a beginning has a line behind the line feeds of the beginning. -/
lemma lineFeeds_lt_length_lines (front : List Char) {back : List Char} (hne : back ≠ []) :
    lineFeeds front < (lines (front ++ back)).length := by
  rw [lines, List.length_map]
  induction front with
  | nil =>
    rw [List.nil_append]
    refine List.length_pos_iff.mpr fun hnil => hne ?_
    rw [← flatten_pieces back, hnil, List.flatten_nil]
  | cons c front ih =>
    by_cases hc : c = '\n'
    · rw [hc, List.cons_append, pieces, if_pos rfl, lineFeeds, List.count_cons_self, ← lineFeeds,
        List.length_cons]
      exact Nat.succ_lt_succ ih
    · rw [List.cons_append, pieces_cons hc, lineFeeds, List.count_cons_of_ne hc, ← lineFeeds,
        List.length_cons, List.length_tail]
      omega

/-! ## Texts joined from lines -/

/-- The line as it is read when a line feed follows: a carriage return at its end is part of the end
of the line then. -/
def withoutReturn (line : List Char) : List Char :=
  if line.getLast? = some '\r' then line.dropLast else line

/-- A line and what is read of it differ by a carriage return at most. -/
lemma eq_withoutReturn_append (line : List Char) :
    line = withoutReturn line ∨ line = withoutReturn line ++ ['\r'] := by
  unfold withoutReturn
  split
  · rename_i hreturn
    obtain ⟨content, rfl⟩ := List.getLast?_eq_some_iff.mp hreturn
    exact Or.inr (by rw [List.dropLast_concat])
  · exact Or.inl rfl

lemma withoutReturn_append {front : List Char} (hfront : front.getLast? ≠ some '\r')
    (rest : List Char) : withoutReturn (front ++ rest) = front ++ withoutReturn rest := by
  by_cases hrest : rest = []
  · rw [hrest, List.append_nil, withoutReturn, if_neg hfront]
    exact (List.append_nil front).symm
  · have hlast : (front ++ rest).getLast? = rest.getLast? := by
      rw [List.getLast?_append, Option.or_of_isSome (List.getLast?_isSome.mpr hrest)]
    unfold withoutReturn
    rw [hlast, List.dropLast_append_of_ne_nil hrest]
    split <;> rfl

lemma withoutReturn_of_notMem {line : List Char} (h : '\r' ∉ line) : withoutReturn line = line :=
  if_neg fun hlast => h (List.mem_of_getLast? hlast)

lemma lines_line {line : List Char} (hline : '\n' ∉ line) (rest : List Char) :
    lines (line ++ '\n' :: rest) = withoutReturn line :: lines rest := by
  by_cases hreturn : line.getLast? = some '\r'
  · obtain ⟨content, rfl⟩ := List.getLast?_eq_some_iff.mp hreturn
    have hcontent : '\n' ∉ content := fun h => hline (List.mem_append_left _ h)
    rw [withoutReturn, if_pos hreturn, List.dropLast_concat, List.append_assoc,
      List.singleton_append, lines_returnFeed hcontent]
  · rw [withoutReturn, if_neg hreturn, lines_feed hline hreturn]

/-- The lines one after the other with a line feed after each of them, after the last one only in an
ended text. -/
def unlines (ended : Bool) : List (List Char) → List Char
  | [] => []
  | [line] => if ended then line ++ ['\n'] else line
  | line :: next :: rest => line ++ '\n' :: unlines ended (next :: rest)

lemma unlines_cons (ended : Bool) (line : List Char) {rest : List (List Char)} (hne : rest ≠ []) :
    unlines ended (line :: rest) = line ++ '\n' :: unlines ended rest := by
  obtain ⟨next, rest, rfl⟩ := List.exists_cons_of_ne_nil hne
  rw [unlines]

lemma unlines_ended_cons (line : List Char) (rest : List (List Char)) :
    unlines true (line :: rest) = line ++ '\n' :: unlines true rest := by
  cases rest <;> rfl

lemma unlines_append (ended : Bool) (front : List (List Char)) {rest : List (List Char)}
    (hne : rest ≠ []) :
    unlines ended (front ++ rest) = unlines true front ++ unlines ended rest := by
  induction front with
  | nil => rfl
  | cons line front ih =>
    rw [List.cons_append,
      unlines_cons ended line (List.append_ne_nil_of_right_ne_nil front hne), ih,
      unlines_ended_cons, List.append_assoc, List.cons_append]

lemma unlines_ended_append (front rest : List (List Char)) :
    unlines true (front ++ rest) = unlines true front ++ unlines true rest := by
  by_cases hrest : rest = []
  · rw [hrest, List.append_nil, unlines, List.append_nil]
  · exact unlines_append true front hrest

/-- An ended text is joined from its lines and an empty one. -/
lemma unlines_ended_eq_joinWith (ls : List (List Char)) :
    unlines true ls = joinWith ['\n'] (ls ++ [[]]) := by
  induction ls with
  | nil => rfl
  | cons line rest ih =>
    obtain ⟨next, more, hmore⟩ := List.exists_cons_of_ne_nil
      (List.append_ne_nil_of_right_ne_nil rest (List.cons_ne_nil ([] : List Char) []))
    rw [unlines_ended_cons, ih, List.cons_append, hmore, joinWith, List.append_assoc]
    rfl

lemma ended_unlines (ls : List (List Char)) : Ended (unlines true ls) := by
  induction ls with
  | nil => exact ended_nil
  | cons line rest ih =>
    rw [unlines_ended_cons, ← List.singleton_append, ← List.append_assoc]
    exact (ended_feed line).append ih

lemma lines_unlines {ended : Bool} {ls : List (List Char)} (hfeed : ∀ line ∈ ls, '\n' ∉ line)
    (hlast : ended = false → ∀ line ∈ ls.getLast?, line ≠ [] ∧ line.getLast? ≠ some '\r') :
    lines (unlines ended ls) = ls.map withoutReturn := by
  induction ls with
  | nil => rfl
  | cons line rest ih =>
    rw [List.forall_mem_cons] at hfeed
    by_cases hrest : rest = []
    · subst hrest
      cases ended with
      | true => exact lines_line hfeed.1 []
      | false =>
        obtain ⟨hne, hreturn⟩ := hlast rfl line rfl
        rw [List.map_singleton, withoutReturn, if_neg hreturn]
        exact lines_unended hfeed.1 hne
    · have htail := ih hfeed.2 fun hended other hother => hlast hended other (by
        rw [List.getLast?_cons, Option.mem_def.mp hother]
        rfl)
      rw [unlines_cons ended line hrest, lines_line hfeed.1, htail, List.map_cons]

lemma lines_unlines_ended {ls : List (List Char)} (hfeed : ∀ line ∈ ls, '\n' ∉ line) :
    lines (unlines true ls) = ls.map withoutReturn :=
  lines_unlines hfeed nofun

/-- What is read line by line in a text that is joined from lines is read in these lines, as long as
carriage returns make no difference and nothing is read in an empty line. -/
lemma flatten_map_lines {α : Type} {read : List Char × Nat → List α}
    (hempty : ∀ number, read ([], number) = []) {ls : List (List Char)}
    (hfeed : ∀ line ∈ ls, '\n' ∉ line)
    (hreturn : ∀ line ∈ ls, ∀ number, read (withoutReturn line, number) = read (line, number))
    (number : Nat) :
    (((lines (joinWith ['\n'] ls)).zipIdx number).map read).flatten =
      ((ls.zipIdx number).map read).flatten := by
  induction ls generalizing number with
  | nil => rfl
  | cons line rest ih =>
    have hline := hfeed line List.mem_cons_self
    cases rest with
    | nil =>
      by_cases hnil : line = []
      · rw [hnil]
        simp [joinWith, lines, pieces, hempty]
      · rw [joinWith, lines_unended hline hnil]
    | cons next rest =>
      have htail := ih (fun other h => hfeed other (List.mem_cons_of_mem line h))
        (fun other h => hreturn other (List.mem_cons_of_mem line h)) (number + 1)
      rw [joinWith, List.append_assoc, List.singleton_append, lines_line hline, List.zipIdx_cons,
        List.map_cons, List.flatten_cons, hreturn line List.mem_cons_self, htail]
      simp only [List.zipIdx_cons, List.map_cons, List.flatten_cons]

/-! ## Agreement on plain breaks -/

/-- The end of an edit line or of a query line: nothing, a line feed, or a carriage return with a
line feed. -/
def terminators : List (List Char) := [[], ['\n'], ['\r', '\n']]

namespace PlainBreaks

variable {cs : List Char}

/-- The edit lines are the query lines, perhaps with an empty line after them. -/
lemma editLines_eq (h : PlainBreaks cs) :
    editLines cs = pieces cs ∨ editLines cs = pieces cs ++ [[]] := by
  induction cs with
  | nil => right; rfl
  | cons c cs ih =>
    have htail := ih h.tail
    by_cases hfeed : c = '\n'
    · subst hfeed
      rw [editLines_lineFeed, pieces_lineFeed]
      rcases htail with e | e <;> simp [e]
    · by_cases hreturn : c = '\r'
      · -- The carriage return joins the line feed after it on both sides.
        subst hreturn
        obtain ⟨ds, rfl⟩ := h.head_return
        rw [editLines_lineFeed, pieces_lineFeed] at htail
        rw [editLines, pieces_cons hfeed, pieces_lineFeed]
        simpa using htail
      · rw [editLines_cons (h.head_not_break hfeed hreturn), pieces_cons hfeed]
        rcases htail with e | e
        · left; rw [e]
        · cases hp : pieces cs with
          | nil => left; simp [e, hp]
          | cons p ps => right; simp [e, hp]

lemma piece_eq (h : PlainBreaks cs) {piece : List Char} (hpiece : piece ∈ pieces cs) :
    ∃ body, ∃ terminator ∈ terminators, piece = body ++ terminator ∧
      ∀ c ∈ body, c ≠ '\n' ∧ c ≠ '\r' := by
  induction cs generalizing piece with
  | nil => simp [pieces] at hpiece
  | cons c cs ih =>
    by_cases hfeed : c = '\n'
    · subst hfeed
      rw [pieces_lineFeed, List.mem_cons] at hpiece
      rcases hpiece with rfl | hmem
      · exact ⟨[], ['\n'], by simp [terminators], by simp, by simp⟩
      · exact ih h.tail hmem
    · by_cases hreturn : c = '\r'
      · subst hreturn
        obtain ⟨ds, rfl⟩ := h.head_return
        rw [pieces_cons hfeed, pieces_lineFeed] at hpiece
        rcases List.mem_cons.mp hpiece with rfl | hmem
        · exact ⟨[], ['\r', '\n'], by simp [terminators], by simp, by simp⟩
        · exact ih h.tail (by rw [pieces_lineFeed]; exact List.mem_cons_of_mem _ hmem)
      · rw [pieces_cons hfeed] at hpiece
        rcases List.mem_cons.mp hpiece with rfl | hmem
        · cases hp : pieces cs with
          | nil => exact ⟨[c], [], by simp [terminators], by simp, by simp [hfeed, hreturn]⟩
          | cons p ps =>
            have hfirst : p ∈ pieces cs := by simp [hp]
            obtain ⟨body, terminator, hmem, rfl, hbody⟩ := ih h.tail hfirst
            refine ⟨c :: body, terminator, hmem, by simp, ?_⟩
            intro d hd
            rcases List.mem_cons.mp hd with rfl | hd
            · exact ⟨hfeed, hreturn⟩
            · exact hbody d hd
        · exact ih h.tail (List.mem_of_mem_tail hmem)

end PlainBreaks

lemma splitTerminator_body {body terminator : List Char} (hmem : terminator ∈ terminators)
    (hbody : ∀ c ∈ body, c ≠ '\n' ∧ c ≠ '\r') :
    splitTerminator (body ++ terminator) = (body, terminator) := by
  simp only [terminators, List.mem_cons, List.not_mem_nil, or_false] at hmem
  rcases hmem with rfl | rfl | rfl
  · rw [List.append_nil, splitTerminator_unended]
    exact fun hlast => (hbody _ (List.mem_of_getLast? hlast)).1 rfl
  · exact splitTerminator_feed fun hlast => (hbody _ (List.mem_of_getLast? hlast)).2 rfl
  · exact splitTerminator_returnFeed body

lemma withoutBreaks_body {body terminator : List Char} (hmem : terminator ∈ terminators)
    (hbody : ∀ c ∈ body, c ≠ '\n' ∧ c ≠ '\r') : withoutBreaks (body ++ terminator) = body := by
  have hstop : body.reverse.dropWhile (fun c => c == '\n' || c == '\r') = body.reverse := by
    cases hrev : body.reverse with
    | nil => rfl
    | cons c rest =>
      have hc := hbody c (List.mem_reverse.mp (by rw [hrev]; simp))
      rw [List.dropWhile_cons_of_neg (by simp [hc.1, hc.2])]
  simp only [terminators, List.mem_cons, List.not_mem_nil, or_false] at hmem
  rcases hmem with rfl | rfl | rfl <;> simp [withoutBreaks, hstop]

end LanguageServer.Text
