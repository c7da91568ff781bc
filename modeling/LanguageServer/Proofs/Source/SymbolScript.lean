import LanguageServer.Proofs.Source.SymbolScan

/-!
# Functions are found as they are written

A function is written as its comment lines, the line of its head, the lines of its body and a
closing brace (`Symbol.WrittenFunction`).  In a script of such functions a scan finds these
functions and no others, each with its comment and on its own line, and the search by name finds the
first of them with that name (`Symbol.scan_functions`).

What holds the functions apart is the closing brace: it ends the comment that belongs to the next
function, and it keeps a `pub` at the end of a body from the next head (`Fresh`,
`WrittenFunction.quiet_block`).
-/

namespace LanguageServer.Symbol

open Text Source

lemma quiet_of_isBlankText {passage : List Char} (h : isBlankText passage = true) :
    Quiet passage := by
  rw [isBlankText, List.all_eq_true] at h
  constructor
  · intro hin
    have hf := h 'f' (hin.subset (by decide))
    exact absurd hf (by decide)
  · rw [List.find?_eq_none.mpr]
    · simp
    · intro c hc
      simpa using h c (List.mem_reverse.mp hc)

/-! ## Comments above a function -/

/-- A line of a comment. -/
def comment (doc : List Char) : List Char :=
  ['/', '/', ' '] ++ doc

lemma isBlankText_scrubLine_comment (doc : List Char) :
    isBlankText (scrubLine (comment doc)) = true := by
  rw [comment, List.cons_append, List.cons_append, scrubLine_comment]
  exact isBlankText_spaces _

/-- The lines are ended and no comment stands at their end. -/
structure Fresh (done : List Char) : Prop where
  ended : Ended done
  no_comment : commentRun (lines done).reverse = []

lemma fresh_nil : Fresh [] := ⟨ended_nil, rfl⟩

/-- A comment ends at a line that is neither blank nor a comment itself. -/
lemma fresh_of_line {done line : List Char} (hdone : Ended done) (hfeed : '\n' ∉ line)
    (hne : trim (withoutReturn line) ≠ [])
    (hcomment : strip? ['/', '/'] (trim (withoutReturn line)) = none) :
    Fresh (done ++ (line ++ ['\n'])) := by
  refine ⟨hdone.append (ended_feed line), ?_⟩
  rw [lines_append hdone, lines_line hfeed, List.reverse_append]
  change commentRun (withoutReturn line :: (lines done).reverse) = []
  rw [commentRun]
  simp only [if_neg hne, hcomment]

lemma fresh_of_plain {done line : List Char} (hdone : Ended done) (hfeed : '\n' ∉ line)
    (hreturn : line.getLast? ≠ some '\r') (hslash : '/' ∉ line) (hmark : isBlankText line = false) :
    Fresh (done ++ (line ++ ['\n'])) := by
  have hline : withoutReturn line = line := if_neg hreturn
  refine fresh_of_line hdone hfeed ?_ ?_
  · rw [hline, Ne, trim_eq_nil_iff, hmark]
    decide
  · rw [hline, Option.eq_none_iff_forall_ne_some]
    intro rest hrest
    have hmem : '/' ∈ trim line := by
      rw [strip?_eq_some_iff.mp hrest]
      exact List.mem_cons_self
    exact hslash (mem_of_mem_trim hmem)

lemma Fresh.blank {done : List Char} (h : Fresh done) : Fresh (done ++ ['\n']) := by
  refine ⟨h.ended.append (ended_feed []), ?_⟩
  rw [lines_append h.ended, List.reverse_append]
  exact h.no_comment

section Comments

variable {docs : List (List Char)} (htrim : ∀ doc ∈ docs, trim doc = doc)
  (hne : ∀ doc ∈ docs, doc ≠ [])

include htrim hne

lemma trim_comment {doc : List Char} (hdoc : doc ∈ docs) : trim (comment doc) = comment doc := by
  have hlast : (comment doc).getLast? = doc.getLast? := by
    rw [comment, List.getLast?_append,
      Option.or_of_isSome (List.getLast?_isSome.mpr (hne doc hdoc))]
  rw [trim_eq_self_iff, hlast]
  refine ⟨?_, ((trim_eq_self_iff doc).mp (htrim doc hdoc)).2⟩
  rintro c ⟨⟩
  decide

lemma getLast?_comment_ne {doc : List Char} (hdoc : doc ∈ docs) :
    (comment doc).getLast? ≠ some '\r' := by
  intro hreturn
  have hblank := ((trim_eq_self_iff _).mp (trim_comment htrim hne hdoc)).2 _ hreturn
  exact absurd hblank (by decide)

/-- A run of comments is read from the nearest line on. -/
lemma commentRun_comments (above : List (List Char)) :
    commentRun (docs.map comment ++ above) = docs ++ commentRun above := by
  induction docs with
  | nil => rfl
  | cons doc docs ih =>
    have hline := trim_comment htrim hne List.mem_cons_self
    have hdoc : trim doc = doc := htrim doc List.mem_cons_self
    have htail := ih (fun other h => htrim other (List.mem_cons_of_mem doc h))
      (fun other h => hne other (List.mem_cons_of_mem doc h))
    have hnotNil : comment doc ≠ [] := List.cons_ne_nil _ _
    have hslashes : strip? ['/', '/'] (comment doc) = some (' ' :: doc) := rfl
    have hspace : (' ' :: doc).dropWhile (· == '/') = ' ' :: doc := rfl
    rw [List.map_cons, List.cons_append, commentRun]
    simp only [hline, if_neg hnotNil, hslashes, hspace, trim_space, hdoc, htail, List.cons_append]

lemma trim_joinWith_docs : trim (joinWith ['\n'] docs) = joinWith ['\n'] docs := by
  cases docs with
  | nil => rfl
  | cons doc docs =>
    rw [trim_eq_self_iff, getLast?_joinWith hne, head?_joinWith (hne doc List.mem_cons_self)]
    refine ⟨((trim_eq_self_iff _).mp (htrim doc List.mem_cons_self)).1, ?_⟩
    intro c hc
    obtain ⟨last, hlast, hend⟩ := Option.bind_eq_some_iff.mp hc
    exact ((trim_eq_self_iff _).mp (htrim last (List.mem_of_getLast? hlast))).2 c hend

lemma isBlankText_scrub_comments (hfeed : ∀ doc ∈ docs, '\n' ∉ doc) :
    isBlankText (scrub (unlines true (docs.map comment))) = true := by
  induction docs with
  | nil => rfl
  | cons doc docs ih =>
    have htail := ih (fun other h => htrim other (List.mem_cons_of_mem doc h))
      (fun other h => hne other (List.mem_cons_of_mem doc h))
      (fun other h => hfeed other (List.mem_cons_of_mem doc h))
    have hline : '\n' ∉ comment doc := by
      simpa [comment] using hfeed doc List.mem_cons_self
    have hblanked := isBlankText_scrubLine_comment doc
    rw [List.map_cons, unlines_ended_cons,
      scrub_feed hline (getLast?_comment_ne htrim hne List.mem_cons_self)]
    rw [isBlankText] at htail hblanked ⊢
    rw [List.all_append, List.all_cons, hblanked, htail]
    decide

/-- What the comment at the end of the lines says is what was written. -/
lemma lastComment?_comments (hfeed : ∀ doc ∈ docs, '\n' ∉ doc) {done : List Char}
    (hfresh : Fresh done) :
    lastComment? (done ++ unlines true (docs.map comment)) =
      if docs = [] then none else some (String.ofList (joinWith ['\n'] docs)) := by
  have hlines :
      lines (done ++ unlines true (docs.map comment)) = lines done ++ docs.map comment := by
    have hcomments : ∀ line ∈ docs.map comment, '\n' ∉ line := by
      intro line hline
      obtain ⟨doc, hdoc, rfl⟩ := List.mem_map.mp hline
      simpa [comment] using hfeed doc hdoc
    rw [lines_append hfresh.ended, lines_unlines_ended hcomments, List.map_map]
    congr 1
    exact List.map_congr_left fun doc hdoc => if_neg (getLast?_comment_ne htrim hne hdoc)
  have hrun : commentRun (lines done ++ docs.map comment).reverse = docs.reverse := by
    have htrim' : ∀ doc ∈ docs.reverse, trim doc = doc := fun doc h =>
      htrim doc (List.mem_reverse.mp h)
    have hne' : ∀ doc ∈ docs.reverse, doc ≠ [] := fun doc h => hne doc (List.mem_reverse.mp h)
    rw [List.reverse_append, ← List.map_reverse, commentRun_comments htrim' hne',
      hfresh.no_comment, List.append_nil]
  have hempty : joinWith ['\n'] docs = [] ↔ docs = [] := by
    constructor
    · intro h
      cases docs with
      | nil => rfl
      | cons doc docs =>
        have hdoc := hne doc List.mem_cons_self
        have hhead : (joinWith ['\n'] (doc :: docs)).head? = doc.head? := head?_joinWith hdoc docs
        rw [h] at hhead
        exact absurd (List.head?_eq_none_iff.mp hhead.symm) hdoc
    · rintro rfl
      rfl
  rw [lastComment?, documentation?, hlines, List.take_length, hrun, List.reverse_reverse]
  simp only [trim_joinWith_docs htrim hne, hempty]

end Comments

/-! ## Functions -/

/-- A function as it is written. -/
structure WrittenFunction where
  head : WrittenHead
  /-- What the comment lines above the head say. -/
  docs : List (List Char)
  /-- The lines between the head and the closing brace. -/
  body : List (List Char)
  trim_docs : ∀ doc ∈ docs, trim doc = doc
  docs_ne_nil : ∀ doc ∈ docs, doc ≠ []
  feed_notMem_docs : ∀ doc ∈ docs, '\n' ∉ doc
  feed_notMem_body : ∀ line ∈ body, '\n' ∉ line
  keyword_notIn_body : ∀ line ∈ body, ¬ functionKeyword <:+: scrubLine line

namespace WrittenFunction

variable (f : WrittenFunction)

/-- The lines of the body and the closing brace. -/
def block : List (List Char) :=
  f.body ++ [['}']]

/-- All lines of the function. -/
def lines : List (List Char) :=
  f.docs.map comment ++ f.head.line :: f.block

/-- What the comment of the function says. -/
def documentation? : Option String :=
  if f.docs = [] then none else some (String.ofList (joinWith ['\n'] f.docs))

/-- The function that is declared when its first line has the given number. -/
def symbol (line : Nat) : Symbol :=
  f.head.symbol f.documentation? (line + f.docs.length)

lemma feed_notMem_comments : ∀ line ∈ f.docs.map comment, '\n' ∉ line := by
  intro line hline
  obtain ⟨doc, hdoc, rfl⟩ := List.mem_map.mp hline
  simpa [comment] using f.feed_notMem_docs doc hdoc

lemma feed_notMem_block : ∀ line ∈ f.block, '\n' ∉ line := by
  intro line hline
  rcases List.mem_append.mp hline with hbody | hbrace
  · exact f.feed_notMem_body line hbody
  · rw [List.mem_singleton.mp hbrace]
    decide

lemma feed_notMem_lines : ∀ line ∈ f.lines, '\n' ∉ line := by
  intro line hline
  rw [lines, List.mem_append, List.mem_cons] at hline
  rcases hline with hcomment | rfl | hblock
  · exact f.feed_notMem_comments line hcomment
  · exact notMem_of_all_isWordOr f.head.all_line (by decide)
  · exact f.feed_notMem_block line hblock

lemma keyword_notIn_block : ∀ line ∈ f.block, ¬ functionKeyword <:+: scrubLine line := by
  intro line hline
  rcases List.mem_append.mp hline with hbody | hbrace
  · exact f.keyword_notIn_body line hbody
  · rw [List.mem_singleton.mp hbrace]
    decide

lemma keyword_notIn_scrub_block (ended : Bool) :
    ¬ functionKeyword <:+: scrub (unlines ended f.block) := by
  intro hin
  obtain ⟨line, hline, hkeyword⟩ := infix_scrub_unlines (by decide) (by decide) (by decide)
    f.feed_notMem_block hin
  exact f.keyword_notIn_block line hline hkeyword

/-- The closing brace keeps the body from the next head. -/
lemma quiet_block : Quiet (scrub (unlines true f.block)) := by
  refine ⟨f.keyword_notIn_scrub_block true, ?_⟩
  have hbrace : scrub (unlines true f.block) = scrub (unlines true f.body) ++ ['}', '\n'] := by
    rw [block, unlines_append true f.body (List.cons_ne_nil _ _),
      scrub_append (ended_unlines f.body)]
    rfl
  have hmark : ['}', '\n'].reverse.find? (!isBlank ·) = some '}' := by decide
  rw [hbrace, List.reverse_append, List.find?_append, hmark]
  simp

end WrittenFunction

namespace WrittenFunction

variable (f : WrittenFunction) {done rest : List Char} {symbols : List Symbol}

/-- Up to the end of its head, a function is scanned as its symbol. -/
lemma scans_head (hfresh : Fresh done)
    (hnext : Scans (done ++ unlines true (f.docs.map comment) ++ (f.head.line ++ ['\n'])) rest
      symbols) :
    Scans done (unlines true (f.docs.map comment) ++ (f.head.line ++ '\n' :: rest))
      (f.symbol (Text.lines done).length :: symbols) := by
  have hquiet : Quiet (scrub (unlines true (f.docs.map comment))) :=
    quiet_of_isBlankText
      (isBlankText_scrub_comments f.trim_docs f.docs_ne_nil f.feed_notMem_docs)
  have hcomment : lastComment? (done ++ unlines true (f.docs.map comment)) = f.documentation? :=
    lastComment?_comments f.trim_docs f.docs_ne_nil f.feed_notMem_docs hfresh
  have hline : (Text.lines (done ++ unlines true (f.docs.map comment))).length =
      (Text.lines done).length + f.docs.length := by
    rw [lines_append hfresh.ended, lines_unlines_ended f.feed_notMem_comments, List.length_append,
      List.length_map, List.length_map]
  have hdeclare := Scans.declare f.head hnext
  rw [hcomment, hline] at hdeclare
  exact Scans.pass (ended_unlines _) hquiet hdeclare

lemma unlines_lines (ended : Bool) :
    unlines ended f.lines =
      unlines true (f.docs.map comment) ++ (f.head.line ++ '\n' :: unlines ended f.block) := by
  have hblock : f.block ≠ [] := List.append_ne_nil_of_right_ne_nil _ (List.cons_ne_nil _ _)
  rw [lines, unlines_append ended _ (List.cons_ne_nil _ _), unlines_cons ended _ hblock]

/-- A function at the end of a script is the last that is found. -/
lemma scans_last (hfresh : Fresh done) (ended : Bool) :
    Scans done (unlines ended f.lines) [f.symbol (Text.lines done).length] := by
  rw [unlines_lines]
  exact f.scans_head hfresh (Scans.stop (f.keyword_notIn_scrub_block ended))

/-- A function is found before those that follow it. -/
lemma scans_append (hfresh : Fresh done)
    (hnext : Scans (done ++ unlines true f.lines) rest symbols) :
    Scans done (unlines true f.lines ++ rest) (f.symbol (Text.lines done).length :: symbols) := by
  have htext : unlines true f.lines ++ rest = unlines true (f.docs.map comment) ++
      (f.head.line ++ '\n' :: (unlines true f.block ++ rest)) := by
    rw [unlines_lines]
    simp
  rw [htext]
  refine f.scans_head hfresh (Scans.pass (ended_unlines _) f.quiet_block ?_)
  have hdone : done ++ unlines true (f.docs.map comment) ++ (f.head.line ++ ['\n']) ++
      unlines true f.block = done ++ unlines true f.lines := by
    rw [unlines_lines]
    simp
  rwa [hdone]

lemma lines_eq_concat : f.lines = (f.docs.map comment ++ f.head.line :: f.body) ++ [['}']] := by
  simp [lines, block]

lemma fresh_lines (hdone : Ended done) : Fresh (done ++ unlines true f.lines) := by
  rw [lines_eq_concat, unlines_append true _ (List.cons_ne_nil _ _), ← List.append_assoc]
  exact fresh_of_line (hdone.append (ended_unlines _)) (by decide) (by decide) (by decide)

end WrittenFunction

/-! ## Scripts -/

/-- The functions that are declared when the first line has the given number. -/
def symbolsFrom (line : Nat) : List WrittenFunction → List Symbol
  | [] => []
  | f :: fs => f.symbol line :: symbolsFrom (line + f.lines.length) fs

/-- What each function has is had by the list of them. -/
lemma map_symbolsFrom {α : Type} {property : Symbol → α} {value : WrittenFunction → α}
    (h : ∀ f line, property (f.symbol line) = value f) (line : Nat) (fs : List WrittenFunction) :
    (symbolsFrom line fs).map property = fs.map value := by
  induction fs generalizing line with
  | nil => rfl
  | cons f fs ih => rw [symbolsFrom, List.map_cons, List.map_cons, h, ih]

lemma scans_script {done : List Char} (hfresh : Fresh done) (ended : Bool)
    (fs : List WrittenFunction) :
    Scans done (unlines ended (fs.flatMap WrittenFunction.lines))
      (symbolsFrom (lines done).length fs) := by
  induction fs generalizing done with
  | nil => exact Scans.stop (by rw [List.flatMap_nil, unlines, scrub_nil]; decide)
  | cons f fs ih =>
    rw [List.flatMap_cons, symbolsFrom]
    by_cases hfs : fs = []
    · subst hfs
      rw [List.flatMap_nil, List.append_nil]
      exact f.scans_last hfresh ended
    · have hne : fs.flatMap WrittenFunction.lines ≠ [] := by
        obtain ⟨g, gs, rfl⟩ := List.exists_cons_of_ne_nil hfs
        simp [WrittenFunction.lines]
      have hlines : (lines (done ++ unlines true f.lines)).length =
          (lines done).length + f.lines.length := by
        rw [lines_append hfresh.ended, lines_unlines_ended f.feed_notMem_lines, List.length_append,
          List.length_map]
      have hrest := ih (f.fresh_lines hfresh.ended)
      rw [hlines] at hrest
      rw [unlines_append ended _ hne]
      exact f.scans_append hfresh hrest

/-! ## The search by name -/

lemma declares_of_notIn {line : List Char} (h : ¬ functionKeyword <:+: scrubLine line)
    (name : String) : FunctionLine.declares name line = false := by
  rw [FunctionLine.declares, findAll_eq_nil_of_strip? (fun input hinput => ?_) h, List.any_nil]
  rw [FunctionLine.named?, ← functionKeyword, hinput]
  rfl

lemma findIdx?_of_notIn {ls : List (List Char)}
    (h : ∀ line ∈ ls, ¬ functionKeyword <:+: scrubLine line) (name : String) :
    (ls.map withoutReturn).findIdx? (FunctionLine.declares name) = none := by
  rw [List.findIdx?_eq_none_iff]
  intro line hline
  obtain ⟨written, hwritten, rfl⟩ := List.mem_map.mp hline
  refine declares_of_notIn (fun hin => h written hwritten ?_) name
  rcases eq_withoutReturn_append written with hsame | hreturn
  · rwa [← hsame] at hin
  · have hpart := scrubFrom_isPrefix_return .code (withoutReturn written)
    rw [← hreturn] at hpart
    exact hin.trans hpart.isInfix

namespace WrittenFunction

variable (f : WrittenFunction)

lemma findIdx?_lines (name : String) :
    (f.lines.map withoutReturn).findIdx? (FunctionLine.declares name) =
      if String.ofList f.head.name == name then some f.docs.length else none := by
  have hcomments : ∀ line ∈ f.docs.map comment, ¬ functionKeyword <:+: scrubLine line := by
    intro line hline
    obtain ⟨doc, -, rfl⟩ := List.mem_map.mp hline
    exact (quiet_of_isBlankText (isBlankText_scrubLine_comment doc)).keyword_notIn
  have hreturn : f.head.line.getLast? ≠ some '\r' := by
    simp [WrittenHead.line]
  rw [lines, List.map_append, List.findIdx?_append, findIdx?_of_notIn hcomments, List.map_cons,
    List.findIdx?_cons, withoutReturn, if_neg hreturn, f.head.declares_line,
    findIdx?_of_notIn f.keyword_notIn_block]
  split <;> simp

end WrittenFunction

lemma findIdx?_script (fs : List WrittenFunction) (name : String) (line : Nat) :
    (((fs.flatMap WrittenFunction.lines).map withoutReturn).findIdx?
        (FunctionLine.declares name)).map (line + ·) =
      ((symbolsFrom line fs).find? (·.name == name)).map (·.location.line) := by
  induction fs generalizing line with
  | nil => rfl
  | cons f fs ih =>
    have hname : (f.symbol line).name = String.ofList f.head.name := rfl
    have hline : (f.symbol line).location.line = line + f.docs.length := rfl
    rw [List.flatMap_cons, List.map_append, List.findIdx?_append, f.findIdx?_lines, symbolsFrom,
      List.find?_cons, hname, List.length_map]
    cases String.ofList f.head.name == name with
    | true => simp [hline]
    | false =>
      rw [← ih (line + f.lines.length), if_neg (by simp), Option.none_or, Option.map_map]
      congr 1
      funext number
      show line + (number + f.lines.length) = line + f.lines.length + number
      omega

lemma eq_brace_of_getLast? (fs : List WrittenFunction) :
    ∀ line ∈ (fs.flatMap WrittenFunction.lines).getLast?, line = ['}'] := by
  induction fs with
  | nil => exact nofun
  | cons f fs ih =>
    intro line hline
    rw [List.flatMap_cons, List.getLast?_append] at hline
    cases hlast : (fs.flatMap WrittenFunction.lines).getLast? with
    | some other =>
      rw [hlast, Option.some_or] at hline
      exact ih line (hlast.trans hline)
    | none =>
      rw [hlast, Option.none_or, f.lines_eq_concat, List.getLast?_concat] at hline
      exact (Option.some.inj hline).symm

/-- The first line that declares a function of a name is the line of its first head. -/
lemma findIn?_script (ended : Bool) (fs : List WrittenFunction) (name : String) :
    FunctionLine.findIn? (String.ofList (unlines ended (fs.flatMap WrittenFunction.lines))) name =
      ((symbolsFrom 0 fs).find? (·.name == name)).map (·.location.line) := by
  have hfeed : ∀ line ∈ fs.flatMap WrittenFunction.lines, '\n' ∉ line := by
    intro line hline
    obtain ⟨f, -, hmem⟩ := List.mem_flatMap.mp hline
    exact f.feed_notMem_lines line hmem
  have hlast : ended = false → ∀ line ∈ (fs.flatMap WrittenFunction.lines).getLast?,
      line ≠ [] ∧ line.getLast? ≠ some '\r' := by
    intro _ line hline
    rw [eq_brace_of_getLast? fs line hline]
    decide
  rw [FunctionLine.findIn?, String.toList_ofList, lines_unlines hfeed hlast, ← findIdx?_script]
  simp

/-- **Scanning a script gives back what was written**: each function with its name, its parameters,
its comment and the line of its head, in the order of the script, for an importing module those that
are exported, and for a name the line of the first function that has it. -/
theorem scan_functions (fs : List WrittenFunction) (ended : Bool) :
    let text := String.ofList (unlines ended (fs.flatMap WrittenFunction.lines))
    scan text none .current = symbolsFrom 0 fs ∧
      (symbolsFrom 0 fs).map parameterLabels =
        fs.map (fun f => f.head.parameters.map fun p => String.ofList p.text) ∧
      (symbolsFrom 0 fs).map parameterNames =
        fs.map (fun f => f.head.parameters.map fun p => String.ofList p.name) ∧
      scan text none .imported = (symbolsFrom 0 fs).filter isExported ∧
      ∀ name, FunctionLine.findIn? text name =
        ((symbolsFrom 0 fs).find? (·.name == name)).map (·.location.line) := by
  intro text
  have hscan : scan text none .current = symbolsFrom 0 fs :=
    scan_of_scans (scans_script fresh_nil ended fs)
  refine ⟨hscan, map_symbolsFrom ?_ 0 fs, map_symbolsFrom ?_ 0 fs, ?_, findIn?_script ended fs⟩
  · intro f line
    exact f.head.split_list
  · intro f line
    exact f.head.map_bareName_split_list
  · rw [scan_imported, hscan]

end LanguageServer.Symbol
