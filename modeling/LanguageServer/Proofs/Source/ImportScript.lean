import Mathlib.Data.List.Basic
import LanguageServer.Proofs.Source.ImportLine
import LanguageServer.Proofs.Source.Scrub

/-!
# Imports are read as they are written

A script is written line by line.  A line declares an import, behind any number of spaces and
perhaps with a comment after it, or it is any other line that does not hold the keyword once it is
scrubbed (`Import.Line`).  The imports that are found in the text are the declared ones, in order,
each with its path, its alias and its own line (`Import.scan_declarations`).

The text may hold carriage returns.  One that ends a line is dropped when the line is read, and a
scrubbed line only loses its end with it, so nothing else is found on the line.
-/

namespace LanguageServer.Import

open Text Source

/-- A word without spaces and dots occurs in an import only where it occurs in a word or a name. -/
lemma infix_spelled {word : List Char} (hne : word ≠ []) (hspace : ' ' ∉ word) (hdot : '.' ∉ word)
    {names : List (List Char)} {alternate : Option (List Char)}
    (h : word <:+: spelled names alternate) :
    word <:+: keyword ∨ (∃ name ∈ names, word <:+: name) ∨ word <:+: ['a', 's'] ∨
      ∃ name ∈ alternate, word <:+: name := by
  cases alternate with
  | none =>
    rcases infix_of_append_separator h hspace with hkeyword | hpath
    · exact Or.inl hkeyword
    · exact Or.inr (Or.inl (infix_joinWith hne hdot hpath))
  | some name =>
    rcases infix_of_append_separator h hspace with hkeyword | hrest
    · exact Or.inl hkeyword
    rcases infix_of_append_separator hrest hspace with hpath | halternate
    · exact Or.inr (Or.inl (infix_joinWith hne hdot hpath))
    have hsplit : word <:+: ['a', 's'] ++ ' ' :: name := halternate
    rcases infix_of_append_separator hsplit hspace with has | hname
    · exact Or.inr (Or.inr (Or.inl has))
    · exact Or.inr (Or.inr (Or.inr ⟨name, rfl, hname⟩))

/-- An import as it is written on a line of its own. -/
structure Written where
  /-- The number of spaces before the keyword. -/
  indent : Nat
  /-- The segments of the path. -/
  path : List (List Char)
  alternate : Option (List Char)
  /-- What stands behind the slashes of a comment. -/
  comment : Option (List Char)
  path_ne_nil : path ≠ []
  isName_path : ∀ name ∈ path, isName isNamePart name = true
  isName_alternate : ∀ name ∈ alternate, isName isNamePart name = true
  feed_notMem_comment : ∀ text ∈ comment, '\n' ∉ text

namespace Written

/-- The comment with its slashes and the space before them. -/
def commentText : Option (List Char) → List Char
  | none => []
  | some text => [' ', '/', '/'] ++ text

/-- The spaces, the path and the alias. -/
def code (w : Written) : List Char :=
  List.replicate w.indent ' ' ++ spelled w.path w.alternate

/-- The line as it is written. -/
def text (w : Written) : List Char :=
  w.code ++ commentText w.comment

/-- The import that the line of the given number declares. -/
def toImport (w : Written) (number : Nat) : Import :=
  ⟨String.ofList (joinWith ['.'] w.path), w.alternate.map String.ofList, number⟩

/-! ## The characters of a written import -/

variable (w : Written)

lemma mem_code {c : Char} (hc : c ∈ w.code) : c = ' ' ∨ c = '.' ∨ isNamePart c = true := by
  have hkeyword : ∀ d ∈ keyword, isNamePart d = true := List.all_eq_true.mp (by decide)
  have hpath : c ∈ joinWith ['.'] w.path → c = '.' ∨ isNamePart c = true := by
    intro h
    rcases mem_joinWith h with hdot | ⟨name, hname, hmem⟩
    · exact Or.inl (List.mem_singleton.mp hdot)
    · exact Or.inr (isNamePart_of_mem (w.isName_path name hname) hmem)
  rw [code, List.mem_append, List.mem_replicate] at hc
  rcases hc with ⟨-, hspace⟩ | hspelled
  · exact Or.inl hspace
  cases halternate : w.alternate with
  | none =>
    rw [halternate, spelled, List.mem_append, List.mem_cons] at hspelled
    rcases hspelled with h | h | h
    · exact Or.inr (Or.inr (hkeyword c h))
    · exact Or.inl h
    · exact Or.inr (hpath h)
  | some name =>
    rw [halternate, spelled, written, List.mem_append, List.mem_cons, List.mem_append,
      List.mem_append] at hspelled
    rcases hspelled with h | h | h | h | h
    · exact Or.inr (Or.inr (hkeyword c h))
    · exact Or.inl h
    · exact Or.inr (hpath h)
    · have has : beforeAlternate.all (fun d => d == ' ' || isNamePart d) = true := by decide
      have hc := List.all_eq_true.mp has c h
      rw [Bool.or_eq_true, beq_iff_eq] at hc
      exact hc.imp_right Or.inr
    · exact Or.inr (Or.inr (isNamePart_of_mem (w.isName_alternate name halternate) h))

lemma notMem_code {c : Char} (hspace : c ≠ ' ') (hdot : c ≠ '.') (hpart : isNamePart c = false) :
    c ∉ w.code := by
  intro hc
  rcases w.mem_code hc with h | h | h
  · exact hspace h
  · exact hdot h
  · rw [hpart] at h
    cases h

lemma feed_notMem_text : '\n' ∉ w.text := by
  rw [text, List.mem_append, not_or]
  refine ⟨w.notMem_code (by decide) (by decide) (by decide), ?_⟩
  cases hcomment : w.comment with
  | none => exact List.not_mem_nil
  | some comment =>
    have hfeed := w.feed_notMem_comment comment hcomment
    simpa [commentText] using hfeed

/-! ## Reading the line -/

lemma isBlankText_scrubLine_commentText (comment : Option (List Char)) :
    isBlankText (scrubLine (commentText comment)) = true := by
  cases comment with
  | none => rfl
  | some text =>
    have hspace :
        scrubLine ([' '] ++ '/' :: '/' :: text) = [' '] ++ scrubLine ('/' :: '/' :: text) :=
      scrubLine_plain_append (by decide) (by decide) _
    have hblanked : isBlankText (blanked ('/' :: '/' :: text)) = true := isBlankText_spaces _
    change isBlankText (scrubLine ([' '] ++ '/' :: '/' :: text)) = true
    rw [hspace, scrubLine_comment, isBlankText, List.all_append, Bool.and_eq_true]
    exact ⟨by decide, hblanked⟩

lemma onLine_text (number : Nat) : onLine number (scrubLine w.text) = [w.toImport number] := by
  obtain ⟨first, names, hpath⟩ := List.exists_cons_of_ne_nil w.path_ne_nil
  have hnames := w.isName_path
  rw [hpath, List.forall_mem_cons] at hnames
  have hindent : isBlankText (List.replicate w.indent ' ') = true := isBlankText_spaces _
  have hquote : '"' ∉ w.code := w.notMem_code (by decide) (by decide) (by decide)
  have hslash : '/' ∉ w.code := w.notMem_code (by decide) (by decide) (by decide)
  rw [text, scrubLine_plain_append hquote hslash, code, List.append_assoc, toImport, hpath]
  exact onLine_spelled hnames.1 hnames.2 w.isName_alternate hindent
    (isBlankText_scrubLine_commentText w.comment) number

/-- A carriage return at the end of the line belongs to the comment. -/
lemma withoutReturn_text : ∃ w' : Written, withoutReturn w.text = w'.text ∧
    ∀ number, w'.toImport number = w.toImport number := by
  have hcode : w.code.getLast? ≠ some '\r' := fun h =>
    w.notMem_code (by decide) (by decide) (by decide) (List.mem_of_getLast? h)
  cases hcomment : w.comment with
  | none =>
    refine ⟨w, ?_, fun _ => rfl⟩
    rw [text, hcomment, withoutReturn_append hcode]
    rfl
  | some comment =>
    have hfeed : '\n' ∉ withoutReturn comment := by
      have hmem := w.feed_notMem_comment comment hcomment
      rcases eq_withoutReturn_append comment with h | h
      · rwa [← h]
      · rw [h, List.mem_append, not_or] at hmem
        exact hmem.1
    refine ⟨⟨w.indent, w.path, w.alternate, some (withoutReturn comment), w.path_ne_nil,
      w.isName_path, w.isName_alternate, by simpa using hfeed⟩, ?_, fun _ => rfl⟩
    rw [text, hcomment, withoutReturn_append hcode, commentText, withoutReturn_append (by decide)]
    rfl

/-! ## Imports of the standard library -/

lemma segments_toImport (number : Nat) :
    (w.toImport number).segments = w.path.map String.ofList := by
  have hdot : ∀ name ∈ w.path, '.' ∉ name := fun name hname =>
    notMem_of_isName (w.isName_path name hname) (by decide) (by decide)
  rw [segments, toImport, String.toList_ofList, splitOn_joinWith w.path_ne_nil hdot]

/-- Does the path begin with the segment of the standard library and go on after it? -/
def namesLibrary : Bool :=
  w.path.head? == some ['s', 't', 'd'] && 2 ≤ w.path.length

lemma isStandard_toImport (number : Nat) : (w.toImport number).isStandard = w.namesLibrary := by
  rw [Bool.eq_iff_iff, isStandard_iff, segments_toImport, namesLibrary, Bool.and_eq_true,
    decide_eq_true_eq, beq_iff_eq, List.length_map, List.head?_map, Option.map_eq_some_iff]
  refine and_congr_left fun _ => ⟨?_, fun h => ⟨_, h, rfl⟩⟩
  rintro ⟨first, hfirst, hstd⟩
  have htoList := congrArg String.toList hstd
  rw [String.toList_ofList] at htoList
  rw [hfirst, htoList]
  rfl

end Written

/-! ## Scripts -/

/-- A line of a script: one that declares an import, or one without the keyword. -/
inductive Line where
  | declaration (w : Written)
  | filler (text : List Char) (feed_notMem : '\n' ∉ text)
      (keyword_notIn : ¬ keyword <:+: scrubLine text)

namespace Line

/-- The line as it is written. -/
def text : Line → List Char
  | declaration w => w.text
  | filler text _ _ => text

/-- The import that the line declares. -/
def declaration? : Line → Option Written
  | declaration w => some w
  | filler _ _ _ => none

lemma feed_notMem_text (line : Line) : '\n' ∉ line.text := by
  cases line with
  | declaration w => exact w.feed_notMem_text
  | filler text hfeed _ => exact hfeed

lemma onLine_of_notIn {line : List Char} (h : ¬ keyword <:+: line) (number : Nat) :
    onLine number line = [] := by
  rw [onLine, findAll_eq_nil_of_strip? (fun input hinput => ?_) h, List.map_nil]
  rw [read?, ← keyword, hinput]
  rfl

lemma onLine_text (line : Line) (number : Nat) :
    onLine number (scrubLine line.text) = (line.declaration?.map (·.toImport number)).toList := by
  cases line with
  | declaration w => exact w.onLine_text number
  | filler text _ hkeyword => exact onLine_of_notIn hkeyword number

/-- A carriage return at the end of a line makes no difference. -/
lemma onLine_withoutReturn (line : Line) (number : Nat) :
    onLine number (scrubLine (withoutReturn line.text)) = onLine number (scrubLine line.text) := by
  cases line with
  | declaration w =>
    obtain ⟨w', htext, himport⟩ := w.withoutReturn_text
    change onLine number (scrubLine (withoutReturn w.text)) = onLine number (scrubLine w.text)
    rw [htext, w'.onLine_text, w.onLine_text, himport]
  | filler text _ hkeyword =>
    change onLine number (scrubLine (withoutReturn text)) = onLine number (scrubLine text)
    rcases eq_withoutReturn_append text with h | h
    · rw [← h]
    · have hpart : scrubLine (withoutReturn text) <+: scrubLine text := by
        have hprefix := scrubFrom_isPrefix_return .code (withoutReturn text)
        rwa [← h] at hprefix
      rw [onLine_of_notIn hkeyword,
        onLine_of_notIn fun hin => hkeyword (hin.trans hpart.isInfix)]

end Line

/-- The imports that the lines declare, each with the number of its line. -/
def declared (script : List Line) : List Import :=
  script.zipIdx.filterMap fun (line, number) => line.declaration?.map (·.toImport number)

/-- The imports of a script that is joined from its lines are the declared ones. -/
lemma scan_joinWith (script : List Line) :
    scan (String.ofList (joinWith ['\n'] (script.map Line.text))) = declared script := by
  let read : List Char × Nat → List Import := fun entry => onLine entry.2 (scrubLine entry.1)
  have hfeed : ∀ line ∈ script.map Line.text, '\n' ∉ line := by
    intro line hline
    obtain ⟨written, -, rfl⟩ := List.mem_map.mp hline
    exact written.feed_notMem_text
  have hreturn : ∀ line ∈ script.map Line.text, ∀ number,
      read (withoutReturn line, number) = read (line, number) := by
    intro line hline number
    obtain ⟨written, -, rfl⟩ := List.mem_map.mp hline
    exact written.onLine_withoutReturn number
  have hlines := flatten_map_lines (show ∀ number, read ([], number) = [] from fun _ => rfl)
    hfeed hreturn 0
  rw [scan, String.toList_ofList]
  refine hlines.trans ?_
  rw [declared, List.filterMap_eq_flatMap_toList, List.flatMap, List.zipIdx_map, List.map_map]
  congr 1
  refine List.map_congr_left fun entry _ => ?_
  exact entry.1.onLine_text entry.2

/-- Of imports with other lines behind them, each has the number of its place. -/
lemma scan_written (ws : List Written) {ls : List (List Char)} (hfeed : ∀ line ∈ ls, '\n' ∉ line)
    (hkeyword : ∀ line ∈ ls, ¬ keyword <:+: scrubLine line) :
    scan (String.ofList (joinWith ['\n'] (ws.map Written.text ++ ls))) =
      ws.zipIdx.map fun (w, number) => w.toImport number := by
  let fillers : List Line :=
    ls.attach.map fun line => .filler line.1 (hfeed line.1 line.2) (hkeyword line.1 line.2)
  have htext : (ws.map Line.declaration ++ fillers).map Line.text = ws.map Written.text ++ ls := by
    rw [List.map_append, List.map_map, List.map_map]
    congr 1
    exact List.attach_map_subtype_val ls
  have hnone : ∀ entry ∈ fillers.zipIdx (0 + (ws.map Line.declaration).length),
      (match entry with
        | (line, number) => line.declaration?.map (·.toImport number)) = none := by
    rintro ⟨line, number⟩ hentry
    obtain ⟨written, -, rfl⟩ := List.mem_map.mp (List.fst_mem_of_mem_zipIdx hentry)
    rfl
  rw [← htext, scan_joinWith, declared, List.zipIdx_append, List.filterMap_append,
    List.filterMap_eq_nil_iff.mpr hnone, List.append_nil, List.zipIdx_map, List.filterMap_map]
  exact List.filterMap_eq_map_iff_forall_eq_some.mpr fun _ _ => rfl

lemma map_isStandard_declared (script : List Line) :
    (declared script).map isStandard =
      (script.filterMap Line.declaration?).map Written.namesLibrary := by
  have hline : ∀ entry : Line × Nat,
      ((entry.1.declaration?.map (·.toImport entry.2)).map isStandard) =
        (entry.1.declaration?.map Written.namesLibrary) := by
    intro entry
    cases entry.1.declaration? with
    | none => rfl
    | some w => exact congrArg some (w.isStandard_toImport entry.2)
  have hscript : script.filterMap Line.declaration? =
      script.zipIdx.filterMap fun entry => entry.1.declaration? := by
    conv_lhs => rw [← List.zipIdx_map_fst 0 script]
    rw [List.filterMap_map]
    rfl
  rw [declared, hscript, List.map_filterMap, List.map_filterMap]
  exact List.filterMap_congr fun entry _ => hline entry

/-- **A script declares the imports that are found in it**, each with the path and the alias that
were written and on its own line, and those are of the standard library whose path begins with its
segment and goes on. -/
theorem scan_declarations (script : List Line) :
    scan (String.ofList (joinWith ['\n'] (script.map Line.text))) = declared script ∧
      (declared script).map isStandard =
        (script.filterMap Line.declaration?).map Written.namesLibrary := by
  exact ⟨scan_joinWith script, map_isStandard_declared script⟩

end LanguageServer.Import
