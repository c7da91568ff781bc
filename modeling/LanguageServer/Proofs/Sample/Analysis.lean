import LanguageServer.Proofs.Sample.Written

/-!
# Samples are analysed as they are made

In every file of every sample the three scanners find what the file was made from: its imports, its
functions with their comments, and in the outline each function with the variable inside it,
followed by the variables of the file (`Sample.analysis_text`).

The functions of a file stand one below the other, so the line of each is the sum of what stands
above it (`functionStart`).  Scans and outlines go through the functions from the first to the last;
`stacked` says what they make on the way.
-/

namespace LanguageServer.Sample

open Text Source LanguageServer.Symbol VariableLine Outline

/-! ## What is found -/

/-- Does the file import the next one? -/
def Chained (sample : Sample) (file : Nat) : Prop :=
  file < sample.chain ∧ file + 1 < sample.files

instance (sample : Sample) (file : Nat) : Decidable (sample.Chained file) :=
  inferInstanceAs (Decidable (_ ∧ _))

/-- The imports that are found in a file: standard modules in turn, from the one with the number of
the file on, and then the next file. -/
def foundImports (sample : Sample) (file : Nat) : List Import :=
  ((List.range sample.standardImports).map fun i =>
    ⟨"std." ++ modules.getD ((file + i) % modules.length) "", some ("s" ++ toString i), i⟩) ++
  if sample.Chained file then
    [⟨"module_" ++ toString (file + 1), some "next", sample.standardImports⟩]
  else []

/-- How many lines a function takes, with its comment and the empty line after it. -/
def height (f : Nat) : Nat := if f % 3 = 2 then 6 else 7

/-- The line on which the given function begins, comment included; for the number of functions, the
line after the last of them. -/
def functionStart (sample : Sample) (file f : Nat) : Nat :=
  sample.standardImports + (if sample.Chained file then 1 else 0) + 1 +
    ((List.range f).map height).sum

/-- The line of the head of a function. -/
def headLine (sample : Sample) (file f : Nat) : Nat :=
  sample.functionStart file f + if f % 3 = 2 then 0 else 1

/-- The name of a function. -/
def functionName (file f : Nat) : String :=
  "func_" ++ toString file ++ "_" ++ toString f

/-- The function that is found for a number. -/
def foundFunction (sample : Sample) (file f : Nat) : Symbol where
  name := functionName file f
  qualifiedName := functionName file f
  rawParameters := "x: int, y: int"
  documentation :=
    if f % 3 = 2 then "Private function."
    else "Computes value " ++ toString f ++ " of module " ++ toString file
  visibility := if f % 3 = 2 then .internal else .exported
  location := ⟨none, sample.headLine file f⟩

/-- The node of a function whose head is on the given line. -/
def functionNode (file f line : Nat) : OutlineNode :=
  ⟨functionName file f, .function, "(x: int, y: int)", line, line + 4,
    [⟨"result", .binding, "", line + 1, line + 1, []⟩]⟩

/-- The node of a variable that is declared on the given line. -/
def bindingNode (file v line : Nat) : OutlineNode :=
  ⟨"var_" ++ toString file ++ "_" ++ toString v, .binding, "", line, line, []⟩

/-- The outline of a file: its functions, and its variables on the lines after the last of them. -/
def foundOutline (sample : Sample) (file : Nat) : List OutlineNode :=
  ((List.range sample.functions).map fun f => functionNode file f (sample.headLine file f)) ++
  (List.range sample.bindings).map fun v =>
    bindingNode file v (sample.functionStart file sample.functions + v)

/-! ## Imports -/

lemma keyword_notIn_of_notMem {line : List Char} (hfeed : '\n' ∉ line) (hd : 'd' ∉ line) :
    ¬ Import.keyword <:+: scrubLine line := fun hin =>
  notMem_scrubLine hfeed hd (by decide) (hin.subset (by decide))

lemma d_notMem_functionHead (file f : Nat) : 'd' ∉ (functionHead file f).line := by
  have hlead : 'd' ∉ (functionHead file f).lead := by
    rw [WrittenHead.lead]
    split <;> decide
  have hlist : 'd' ∉ (functionHead file f).list := by
    rw [list_functionHead]
    decide
  have hname : 'd' ∉ (functionHead file f).name := by simp [functionHead, notMem_digits]
  simp [WrittenHead.line, WrittenHead.text, WrittenHead.opening, functionKeyword, hlead, hlist,
    hname]

lemma import_notIn_function (file f : Nat) :
    ∀ line ∈ (function file f).lines, ¬ Import.keyword <:+: scrubLine line := by
  intro line hline
  have hfeed := (function file f).feed_notMem_lines line hline
  rw [WrittenFunction.lines, List.mem_append, List.mem_cons] at hline
  rcases hline with hcomment | rfl | hblock
  · obtain ⟨doc, -, rfl⟩ := List.mem_map.mp hcomment
    intro hin
    have hblank :=
      List.all_eq_true.mp (isBlankText_scrubLine_comment doc) 'd' (hin.subset (by decide))
    exact absurd hblank (by decide)
  · exact keyword_notIn_of_notMem hfeed (d_notMem_functionHead file f)
  · refine keyword_notIn_of_notMem hfeed ?_
    simp only [WrittenFunction.block, function, List.cons_append, List.nil_append, List.mem_cons,
      List.not_mem_nil, or_false] at hblock
    rcases hblock with rfl | rfl | rfl | rfl
    · simp [line_result, notMem_digits]
    · decide
    · decide
    · decide

lemma zipIdx_range_map {α : Type} (make : Nat → α) (n : Nat) :
    ((List.range n).map make).zipIdx = (List.range n).map fun i => (make i, i) := by
  refine List.ext_getElem (by simp) fun i hi hi' => ?_
  simp

lemma import_notIn_rest (file : Nat) (fs vs : List Nat) :
    ∀ line ∈ [[]] ++ (functionBlocks file fs ++ bindingLines file vs) ++ [[]],
      '\n' ∉ line ∧ ¬ Import.keyword <:+: scrubLine line := by
  have hempty : '\n' ∉ ([] : List Char) ∧ ¬ Import.keyword <:+: scrubLine [] := by decide
  intro line hline
  simp only [List.mem_append, List.mem_singleton, functionBlocks, bindingLines, List.mem_flatMap,
    List.mem_map] at hline
  rcases hline with (rfl | ⟨f, -, hfunction | rfl⟩ | ⟨v, -, rfl⟩) | rfl
  · exact hempty
  · exact ⟨(function file f).feed_notMem_lines line hfunction,
      import_notIn_function file f line hfunction⟩
  · exact hempty
  · have hfeed : '\n' ∉ (binding file v).line := by simp [line_binding, notMem_digits]
    have hd : 'd' ∉ (binding file v).line := by simp [line_binding, notMem_digits]
    exact ⟨hfeed, keyword_notIn_of_notMem hfeed hd⟩
  · exact hempty

lemma toImport_standardImport (file i line : Nat) : (standardImport file i).toImport line =
    ⟨"std." ++ module file i, some ("s" ++ toString i), line⟩ := by
  simp [Import.Written.toImport, standardImport, joinWith, moduleName, digits, ← String.toList_inj]

lemma toImport_nextImport (file line : Nat) : (nextImport file).toImport line =
    ⟨"module_" ++ toString (file + 1), some "next", line⟩ := by
  simp [Import.Written.toImport, nextImport, joinWith, digits, ← String.toList_inj]

lemma imports_eq (sample : Sample) (file : Nat) :
    sample.imports file = (List.range sample.standardImports).map (standardImport file) ++
      if sample.Chained file then [nextImport file] else [] := by
  simp only [imports, Bool.and_eq_true, decide_eq_true_eq]
  rfl

/-- **The imports of a sample are found.** -/
lemma scan_imports (sample : Sample) (file : Nat) :
    Import.scan (sample.text file) = sample.foundImports file := by
  have hrest := import_notIn_rest file (List.range sample.functions) (List.range sample.bindings)
  rw [text_eq, unlines_ended_eq_joinWith, List.append_assoc,
    Import.scan_written (sample.imports file)
    (fun line hline => (hrest line hline).1) (fun line hline => (hrest line hline).2), imports_eq,
    List.zipIdx_append, List.map_append, zipIdx_range_map, List.map_map, foundImports]
  congr 1
  · exact List.map_congr_left fun i _ => toImport_standardImport file i i
  · by_cases hchain : sample.Chained file
    · simp [hchain, toImport_nextImport]
    · simp [hchain]

/-- Those of the standard library are told from the next file. -/
lemma map_isStandard_foundImports (sample : Sample) (file : Nat) :
    (sample.foundImports file).map Import.isStandard =
      List.replicate sample.standardImports true ++
        (if sample.Chained file then [false] else []) := by
  have hstandard : ∀ i, ((standardImport file i).toImport i).isStandard = true := by
    intro i
    rw [Import.Written.isStandard_toImport]
    rfl
  have hnext : ((nextImport file).toImport sample.standardImports).isStandard = false := by
    rw [Import.Written.isStandard_toImport]
    rfl
  rw [foundImports, List.map_append, List.map_map]
  congr 1
  · refine List.eq_replicate_iff.mpr ⟨by simp, fun answer hanswer => ?_⟩
    obtain ⟨i, -, rfl⟩ := List.mem_map.mp hanswer
    rw [Function.comp_apply, ← module, ← toImport_standardImport]
    exact hstandard i
  · rw [toImport_nextImport] at hnext
    split
    · exact congrArg (fun answer => [answer]) hnext
    · rfl

/-! ## Parts that stand one below the other -/

section Stacked

variable {β : Type} {size : Nat → Nat} {make : Nat → Nat → β}

/-- What is made from parts that stand one below the other, each from the line it begins on. -/
def stacked (size : Nat → Nat) (make : Nat → Nat → β) : Nat → List Nat → List β
  | _, [] => []
  | line, part :: parts => make line part :: stacked size make (line + size part) parts

lemma stacked_append (line : Nat) (front rest : List Nat) :
    stacked size make line (front ++ rest) =
      stacked size make line front ++ stacked size make (line + (front.map size).sum) rest := by
  induction front generalizing line with
  | nil => rfl
  | cons part front ih =>
    rw [List.cons_append, stacked, stacked, ih, List.map_cons, List.sum_cons, Nat.add_assoc]
    rfl

lemma stacked_range (line n : Nat) :
    stacked size make line (List.range n) =
      (List.range n).map fun i => make (line + ((List.range i).map size).sum) i := by
  induction n with
  | zero => rfl
  | succ n ih =>
    rw [List.range_succ, stacked_append, ih, List.map_append]
    rfl

end Stacked

/-! ## The lines before the functions -/

/-- What is not in the lines before the functions: the words that a declaration on a line begins
with, and the last letter of `pub`. -/
def absentWords : List (List Char) := [functionKeyword, variableKeyword, mutableKeyword, ['b']]

/-- A word without digits is not longer for a number behind a text. -/
lemma infix_of_append_digits {word front : List Char} {n : Nat} (hne : word ≠ [])
    (hword : ∀ c ∈ word, c.isDigit = false) (h : word <:+: front ++ digits n) :
    word <:+: front := by
  have hdigit : ∀ c ∈ word, c ∉ digits n := fun c hc => notMem_digits (hword c hc) n
  rcases List.infix_append_iff.mp h with hfront | hdigits | ⟨before, after, rfl, hbefore, hafter⟩
  · exact hfront
  · obtain ⟨c, rest, rfl⟩ := List.exists_cons_of_ne_nil hne
    exact absurd (hdigits.subset List.mem_cons_self) (hdigit c List.mem_cons_self)
  · cases after with
    | nil =>
      rw [List.append_nil]
      exact hbefore.isInfix
    | cons c after =>
      have hc : c ∈ before ++ c :: after := by simp
      exact absurd (hafter.subset List.mem_cons_self) (hdigit c hc)

lemma absentWord_notIn_imports (sample : Sample) (file : Nat) {word : List Char}
    (hword : word ∈ absentWords) :
    ∀ w ∈ sample.imports file, ¬ word <:+: Import.spelled w.path w.alternate := by
  have hplain : word ≠ [] ∧ ' ' ∉ word ∧ '.' ∉ word ∧ word.all (!·.isDigit) = true := by
    revert word
    decide
  have hwords : ¬ word <:+: Import.keyword ∧ ¬ word <:+: ['s', 't', 'd'] ∧
      (∀ name ∈ moduleNames, ¬ word <:+: name) ∧ ¬ word <:+: ['s'] ∧ ¬ word <:+: ['a', 's'] ∧
      ¬ word <:+: ['m', 'o', 'd', 'u', 'l', 'e', '_'] ∧ ¬ word <:+: ['n', 'e', 'x', 't'] := by
    clear hplain
    revert word
    decide
  obtain ⟨hne, hspace, hdot, hdigit⟩ := hplain
  obtain ⟨hkeyword, hstd, hmodule, hs, has, hnext, halternate⟩ := hwords
  have hnumber : ∀ (front : List Char) (n : Nat),
      ¬ word <:+: front → ¬ word <:+: front ++ digits n :=
    fun front n hfront hin => hfront (infix_of_append_digits hne
      (fun c hc => by simpa using List.all_eq_true.mp hdigit c hc) hin)
  intro w hw hin
  rcases mem_imports hw with ⟨place, rfl⟩ | rfl
  · rcases Import.infix_spelled hne hspace hdot hin with h | ⟨name, hname, h⟩ | h | ⟨_, ⟨⟩, h⟩
    · exact hkeyword h
    · rcases List.mem_cons.mp hname with rfl | hname
      · exact hstd h
      · rw [List.mem_singleton.mp hname] at h
        exact hmodule _ (moduleName_mem file place) h
    · exact has h
    · exact hnumber ['s'] place hs h
  · rcases Import.infix_spelled hne hspace hdot hin with h | ⟨name, hname, h⟩ | h | ⟨_, ⟨⟩, h⟩
    · exact hkeyword h
    · rw [List.mem_singleton.mp hname] at h
      exact hnumber _ _ hnext h
    · exact has h
    · exact halternate h

section Imports

variable {sample : Sample} {file : Nat} {w : Import.Written} (h : w ∈ sample.imports file)

include h

/-- The imports of a file are written without indentation and comments. -/
lemma text_import : w.text = Import.spelled w.path w.alternate ∧ w.text = w.code := by
  rcases mem_imports h with ⟨place, rfl⟩ | rfl
  · exact ⟨List.append_nil _, List.append_nil _⟩
  · exact ⟨List.append_nil _, List.append_nil _⟩

lemma notMem_import {c : Char} (hspace : c ≠ ' ') (hdot : c ≠ '.') (hpart : isNamePart c = false) :
    c ∉ w.text := by
  rw [(text_import h).2]
  exact w.notMem_code hspace hdot hpart

lemma scrubLine_import : scrubLine w.text = w.text :=
  scrubLine_plain (notMem_import h (by decide) (by decide) (by decide))
    (notMem_import h (by decide) (by decide) (by decide))

end Imports

/-- The lines before the functions. -/
def prelude (sample : Sample) (file : Nat) : List (List Char) :=
  (sample.imports file).map Import.Written.text ++ [[]]

lemma feed_notMem_prelude (sample : Sample) (file : Nat) :
    ∀ line ∈ sample.prelude file, '\n' ∉ line := by
  intro line hline
  rw [prelude, List.mem_append, List.mem_map, List.mem_singleton] at hline
  rcases hline with ⟨w, -, rfl⟩ | rfl
  · exact w.feed_notMem_text
  · decide

lemma absentWord_notIn_prelude (sample : Sample) (file : Nat) {word : List Char}
    (hword : word ∈ absentWords) : ∀ line ∈ sample.prelude file, ¬ word <:+: scrubLine line := by
  intro line hline
  rw [prelude, List.mem_append, List.mem_map, List.mem_singleton] at hline
  rcases hline with ⟨w, hw, rfl⟩ | rfl
  · rw [scrubLine_import hw, (text_import hw).1]
    exact absentWord_notIn_imports sample file hword w hw
  · have hne : word ≠ [] := by
      revert word
      decide
    exact fun hin => hne (List.infix_nil.mp hin)

lemma quiet_prelude (sample : Sample) (file : Nat) :
    Quiet (scrub (unlines true (sample.prelude file))) := by
  constructor
  · intro hin
    obtain ⟨line, hline, hkeyword⟩ := infix_scrub_unlines (by decide) (by decide) (by decide)
      (sample.feed_notMem_prelude file) hin
    exact sample.absentWord_notIn_prelude file List.mem_cons_self line hline hkeyword
  · intro hb
    have hmem := List.mem_reverse.mp (List.mem_of_find?_eq_some hb)
    obtain ⟨before, after, htext⟩ := List.append_of_mem hmem
    have hin : ['b'] <:+: scrub (unlines true (sample.prelude file)) :=
      ⟨before, after, by simp [htext]⟩
    obtain ⟨line, hline, hb⟩ := infix_scrub_unlines (by decide) (by decide) (by decide)
      (sample.feed_notMem_prelude file) hin
    exact sample.absentWord_notIn_prelude file (by decide) line hline hb

lemma fresh_prelude (sample : Sample) (file : Nat) :
    Fresh (unlines true (sample.prelude file)) := by
  rw [prelude, unlines_ended_append]
  refine Fresh.blank ?_
  rcases List.eq_nil_or_concat (sample.imports file) with hnil | ⟨front, w, hconcat⟩
  · rw [hnil]
    exact fresh_nil
  · have hw : w ∈ sample.imports file := by simp [hconcat]
    have hreturn : w.text.getLast? ≠ some '\r' := fun hlast =>
      notMem_import hw (by decide) (by decide) (by decide) (List.mem_of_getLast? hlast)
    have hmark : isBlankText w.text = false := by
      rw [Bool.eq_false_iff, (text_import hw).1]
      intro hblank
      have hn : 'n' ∈ Import.spelled w.path w.alternate := by
        cases w.alternate <;> exact List.mem_cons_self
      exact absurd (List.all_eq_true.mp hblank 'n' hn) (by decide)
    rw [hconcat, List.concat_eq_append, List.map_append, unlines_ended_append]
    exact fresh_of_plain (ended_unlines _) w.feed_notMem_text hreturn
      (notMem_import hw (by decide) (by decide) (by decide)) hmark

/-! ## Functions -/

lemma isExported_eq (f : Nat) : isExported f = if f % 3 = 2 then false else true := by
  by_cases hthird : f % 3 = 2
  · simp [isExported, hthird]
  · simp [isExported, hthird]

lemma length_docs (file f : Nat) : (function file f).docs.length = if f % 3 = 2 then 0 else 1 := by
  show (if isExported f then [functionDoc file f] else []).length = _
  rw [isExported_eq]
  split <;> rfl

lemma length_function (file f : Nat) : ((function file f).lines ++ [[]]).length = height f := by
  have hlength : ((function file f).lines ++ [[]]).length = (function file f).docs.length + 6 := by
    rw [WrittenFunction.lines, List.length_append, List.length_append, List.length_map]
    rfl
  rw [hlength, length_docs, height]
  split <;> rfl

/-- The functions of a file are found one below the other. -/
lemma scans_functions (file : Nat) {done rest : List Char} (hfresh : Fresh done)
    (hrest : ¬ functionKeyword <:+: scrub rest) (fs : List Nat) :
    Scans done (unlines true (functionBlocks file fs) ++ rest)
      (stacked height (fun line f => (function file f).symbol line)
        (Text.lines done).length fs) := by
  induction fs generalizing done with
  | nil => exact Scans.stop hrest
  | cons f fs ih =>
    have htext : unlines true (functionBlocks file (f :: fs)) ++ rest =
        unlines true (function file f).lines ++
          (['\n'] ++ (unlines true (functionBlocks file fs) ++ rest)) := by
      rw [functionBlocks, List.flatMap_cons, ← functionBlocks, unlines_ended_append,
        unlines_ended_append]
      simp [unlines]
    have hfresh' := ((function file f).fresh_lines hfresh.ended).blank
    have hlines : (Text.lines (done ++ unlines true (function file f).lines ++ ['\n'])).length =
        (Text.lines done).length + height f := by
      rw [lines_append (hfresh.ended.append (ended_unlines _)), lines_append hfresh.ended,
        lines_unlines_ended (function file f).feed_notMem_lines, List.length_append,
        List.length_append, List.length_map, ← length_function file, List.length_append,
        ← Nat.add_assoc]
      rfl
    have hnext := ih hfresh'
    rw [hlines] at hnext
    rw [htext, stacked]
    exact (function file f).scans_append hfresh
      (Scans.pass (ended_feed []) (quiet_of_isBlankText (by decide)) hnext)

lemma name_functionHead (file f : Nat) :
    String.ofList (functionHead file f).name = functionName file f := by
  simp [functionHead, functionName, digits, ← String.toList_inj]

lemma symbol_function (sample : Sample) (file f : Nat) :
    (function file f).symbol (sample.functionStart file f) = sample.foundFunction file f := by
  have hlist : String.ofList (functionHead file f).list = "x: int, y: int" := by
    rw [list_functionHead]
  have hdoc : String.ofList (functionDoc file f) =
      "Computes value " ++ toString f ++ " of module " ++ toString file := by
    simp [functionDoc, digits, ← String.toList_inj]
  have hvisibility : (functionHead file f).visibility =
      if f % 3 = 2 then Visibility.internal else .exported := by
    rw [functionHead, isExported_eq]
    split <;> rfl
  have hdocumentation : (function file f).documentation?.getD
      (if f % 3 = 2 then Visibility.internal else .exported).sentence =
      if f % 3 = 2 then "Private function."
      else "Computes value " ++ toString f ++ " of module " ++ toString file := by
    by_cases hthird : f % 3 = 2
    · simp [WrittenFunction.documentation?, function, isExported_eq, hthird, Visibility.sentence]
    · simp [WrittenFunction.documentation?, function, isExported_eq, hthird, joinWith, hdoc]
  show (functionHead file f).symbol (function file f).documentation?
    (sample.functionStart file f + (function file f).docs.length) = _
  rw [length_docs, ← headLine, WrittenHead.symbol, name_functionHead, hlist, hvisibility,
    foundFunction, hdocumentation]

lemma keyword_notIn_bindings (file : Nat) (vs : List Nat) :
    ¬ functionKeyword <:+: scrub (unlines true (bindingLines file vs)) := by
  intro hin
  have hfeed : ∀ line ∈ bindingLines file vs, '\n' ∉ line := by
    intro line hline
    obtain ⟨v, -, rfl⟩ := List.mem_map.mp hline
    simp [line_binding, notMem_digits]
  obtain ⟨line, hline, hkeyword⟩ :=
    infix_scrub_unlines (by decide) (by decide) (by decide) hfeed hin
  obtain ⟨v, -, rfl⟩ := List.mem_map.mp hline
  rw [(binding file v).scrubLine_line] at hkeyword
  have hf : 'f' ∈ (binding file v).line := hkeyword.subset (by decide)
  simp [line_binding, notMem_digits] at hf

lemma length_prelude (sample : Sample) (file : Nat) :
    (sample.prelude file).length =
      sample.standardImports + (if sample.Chained file then 1 else 0) + 1 := by
  rw [prelude, List.length_append, List.length_map, imports_eq, List.length_append, List.length_map,
    List.length_range]
  split <;> rfl

lemma text_prelude (sample : Sample) (file : Nat) :
    sample.text file = String.ofList (unlines true (sample.prelude file) ++
      (unlines true (functionBlocks file (List.range sample.functions)) ++
        unlines true (bindingLines file (List.range sample.bindings)))) := by
  rw [text_eq, ← List.append_assoc, ← prelude, unlines_ended_append, unlines_ended_append]

/-- **The functions of a sample are found.** -/
lemma scan_text (sample : Sample) (file : Nat) :
    Symbol.scan (sample.text file) none .current =
      (List.range sample.functions).map (sample.foundFunction file) := by
  have hscans := scans_functions file (sample.fresh_prelude file)
    (keyword_notIn_bindings file (List.range sample.bindings)) (List.range sample.functions)
  rw [lines_unlines_ended (sample.feed_notMem_prelude file), List.length_map, length_prelude,
    stacked_range] at hscans
  rw [text_prelude, scan_of_scans (Scans.pass (ended_unlines _) (sample.quiet_prelude file) hscans)]
  exact List.map_congr_left fun f _ => sample.symbol_function file f

/-! ## The outline -/

open Builder

lemma idle_import {sample : Sample} {file : Nat} {w : Import.Written}
    (h : w ∈ sample.imports file) : Idle w.text := by
  have hwords : ∀ word ∈ absentWords, ¬ word <:+: scrubLine w.text := by
    intro word hword
    rw [scrubLine_import h, (text_import h).1]
    exact absentWord_notIn_imports sample file hword w h
  refine ⟨?_, hwords _ (by decide), hwords _ (by decide), hwords _ (by decide), ?_⟩
  · rw [scrubLine_import h]
    exact notMem_import h (by decide) (by decide) (by decide)
  · rw [scrubLine_import h]
    exact unpaired_plain (notMem_import h (by decide) (by decide) (by decide))
      (notMem_import h (by decide) (by decide) (by decide))

lemma assignmentNode_result (f number : Nat) :
    assignmentNode (result f) number = ⟨"result", .binding, "", number, number, []⟩ := by
  have hkind : isConstant ⟨String.ofList (result f).name, none, (result f).isMutable⟩ = false := by
    simp [isConstant, result]
  rw [assignmentNode, hkind]
  rfl

lemma assignmentNode_binding (file v number : Nat) :
    assignmentNode (binding file v) number = bindingNode file v number := by
  have hname :
      String.ofList (binding file v).name = "var_" ++ toString file ++ "_" ++ toString v := by
    simp [binding, digits, ← String.toList_inj]
  have hkind : isConstant ⟨String.ofList (binding file v).name, none, (binding file v).isMutable⟩ =
      false := by
    simp [isConstant, binding]
  rw [assignmentNode, hkind, hname]
  rfl

/-- The lines of a function that hold no declaration. -/
lemma idle_blockLine : Idle blockLine :=
  ⟨by decide, by decide, by decide, by decide, by decide⟩

lemma idle_returnLine : Idle returnLine :=
  ⟨by decide, by decide, by decide, by decide, by decide⟩

lemma idle_nil : Idle [] :=
  idle_of_isBlankText rfl

lemma step_result {b : Builder} (hmark : b.mark = none) (f number : Nat) :
    b.step number (result f).line = b.attach ⟨"result", .binding, "", number, number, []⟩ := by
  have hfunction : ¬ functionKeyword <:+: (result f).line := by
    have hbody := keyword_notIn_body f (result f).line List.mem_cons_self
    rwa [(result f).scrubLine_line] at hbody
  rw [step_assignment hmark (result f) (by simp [line_result, notMem_digits]) hfunction
    (by simp [line_result, notMem_digits]) (by simp [line_result, notMem_digits]),
    assignmentNode_result]

lemma step_binding {b : Builder} (hmark : b.mark = none) (file v number : Nat) :
    b.step number (binding file v).line = b.attach (bindingNode file v number) := by
  have hfunction : ¬ functionKeyword <:+: (binding file v).line := by
    intro hin
    have hf : 'f' ∈ (binding file v).line := hin.subset (by decide)
    simp [line_binding, notMem_digits] at hf
  rw [step_assignment hmark (binding file v) (by simp [line_binding, notMem_digits]) hfunction
    (by simp [line_binding, notMem_digits]) (by simp [line_binding, notMem_digits]),
    assignmentNode_binding]

/-- A function is opened by its head, takes its variable in and is closed by its brace, four lines
after the head. -/
lemma run_function (roots : List OutlineNode) (number file f : Nat) :
    (atRest roots).run number ((function file f).lines ++ [[]]) =
      atRest (functionNode file f (number + (function file f).docs.length) :: roots) := by
  have hcomments : ∀ line ∈ (function file f).docs.map comment, Idle line := by
    intro line hline
    obtain ⟨doc, -, rfl⟩ := List.mem_map.mp hline
    exact idle_of_isBlankText (isBlankText_scrubLine_comment doc)
  have hdetail :
      functionDetail none (String.ofList (FunctionLine.writtenList (functionHead file f))) =
      "(x: int, y: int)" := by
    rw [FunctionLine.writtenList, list_functionHead]
    decide
  have hlines : (function file f).lines ++ [[]] = (function file f).docs.map comment ++
      [(functionHead file f).line, (result f).line, blockLine, returnLine, ['}'], []] := by
    simp [WrittenFunction.lines, WrittenFunction.block, function]
  rw [hlines, run_append, run_idle rfl hcomments, List.length_map, run_cons, step_head rfl, hdetail,
    name_functionHead, run_cons, step_result rfl, run_cons, step_idle rfl idle_blockLine, run_cons,
    step_idle rfl idle_returnLine, run_cons, step_brace rfl, run_cons]
  exact step_idle rfl idle_nil

/-- The functions of a file become roots, one after the other. -/
lemma run_functions (roots : List OutlineNode) (number file : Nat) (fs : List Nat) :
    (atRest roots).run number (functionBlocks file fs) =
      atRest ((stacked height
        (fun line f => functionNode file f (line + (function file f).docs.length))
          number fs).reverse ++
          roots) := by
  induction fs generalizing roots number with
  | nil => rfl
  | cons f fs ih =>
    rw [functionBlocks, List.flatMap_cons, ← functionBlocks, run_append, run_function,
      length_function, ih,
      stacked, List.reverse_cons, List.append_assoc, List.singleton_append]

lemma run_bindings (roots : List OutlineNode) (number file : Nat) (vs : List Nat) :
    (atRest roots).run number (bindingLines file vs) =
      atRest ((stacked (fun _ => 1) (fun line v => bindingNode file v line) number vs).reverse ++
        roots) := by
  induction vs generalizing roots number with
  | nil => rfl
  | cons v vs ih =>
    rw [bindingLines, List.map_cons, ← bindingLines, run_cons, step_binding rfl, stacked,
      List.reverse_cons, List.append_assoc, List.singleton_append]
    exact ih _ (number + 1)

lemma return_notMem_function (file f : Nat) : ∀ line ∈ (function file f).lines, '\r' ∉ line := by
  intro line hline
  rw [WrittenFunction.lines, List.mem_append, List.mem_cons] at hline
  rcases hline with hcomment | rfl | hblock
  · obtain ⟨doc, hdoc, rfl⟩ := List.mem_map.mp hcomment
    rw [function] at hdoc
    split at hdoc
    · rw [List.mem_singleton.mp hdoc]
      simp [comment, functionDoc, notMem_digits]
    · cases hdoc
  · exact notMem_of_all_isWordOr (functionHead file f).all_line (by decide)
  · simp only [WrittenFunction.block, function, List.cons_append, List.nil_append, List.mem_cons,
      List.not_mem_nil, or_false] at hblock
    rcases hblock with rfl | rfl | rfl | rfl
    · simp [line_result, notMem_digits]
    · decide
    · decide
    · decide

lemma lines_text (sample : Sample) (file : Nat) :
    Text.lines (sample.text file).toList =
      sample.prelude file ++ (functionBlocks file (List.range sample.functions) ++
        bindingLines file (List.range sample.bindings)) := by
  have hplain : ∀ line ∈
      sample.prelude file ++ (functionBlocks file (List.range sample.functions) ++
      bindingLines file (List.range sample.bindings)), '\n' ∉ line ∧ '\r' ∉ line := by
    intro line hline
    simp only [prelude, functionBlocks, bindingLines, List.mem_append, List.mem_map,
      List.mem_flatMap, List.mem_singleton] at hline
    rcases hline with (⟨w, hw, rfl⟩ | rfl) | ⟨f, -, hfunction | rfl⟩ | ⟨v, -, rfl⟩
    · exact ⟨w.feed_notMem_text, notMem_import hw (by decide) (by decide) (by decide)⟩
    · decide
    · exact ⟨(function file f).feed_notMem_lines line hfunction,
        return_notMem_function file f line hfunction⟩
    · decide
    · constructor <;> simp [line_binding, notMem_digits]
  rw [text_prelude, String.toList_ofList, ← unlines_ended_append, ← unlines_ended_append,
    lines_unlines_ended fun line hline => (hplain line hline).1]
  exact (List.map_congr_left fun line hline => withoutReturn_of_notMem (hplain line hline).2).trans
    (List.map_id' _)

/-- **The outline of a sample.** -/
lemma build_text (sample : Sample) (file : Nat) :
    build (sample.text file) = sample.foundOutline file := by
  have hprelude : ∀ line ∈ sample.prelude file, Idle line := by
    intro line hline
    rw [prelude, List.mem_append, List.mem_map, List.mem_singleton] at hline
    rcases hline with ⟨w, hw, rfl⟩ | rfl
    · exact idle_import hw
    · exact idle_nil
  have hstart : 0 + (sample.prelude file).length +
      (functionBlocks file (List.range sample.functions)).length =
        sample.functionStart file sample.functions := by
    rw [Nat.zero_add, length_prelude, functionStart, functionBlocks, List.length_flatMap]
    simp only [length_function]
  have hfunctions : stacked height
      (fun line f => functionNode file f (line + (function file f).docs.length))
        (0 + (sample.prelude file).length) (List.range sample.functions) =
      (List.range sample.functions).map fun f => functionNode file f (sample.headLine file f) := by
    rw [stacked_range, length_prelude, Nat.zero_add]
    simp only [length_docs]
    rfl
  have hbindings : stacked (fun _ => 1) (fun line v => bindingNode file v line)
      (sample.functionStart file sample.functions) (List.range sample.bindings) =
      (List.range sample.bindings).map fun v =>
        bindingNode file v (sample.functionStart file sample.functions + v) := by
    rw [stacked_range]
    simp
  have hrun : (Builder.empty).run 0 (Text.lines (sample.text file).toList) =
      atRest (sample.foundOutline file).reverse := by
    have hempty : Builder.empty = atRest [] := rfl
    rw [lines_text, run_append, run_idle rfl hprelude, run_append, hempty, run_functions,
      run_bindings,
      hfunctions, hstart, hbindings, foundOutline, List.reverse_append, List.append_nil]
  rw [build_of_run hrun, List.reverse_reverse]

/-- **Every file of every sample is analysed as it was made.**  The imports are the standard modules
in turn and the next file where the chain goes on; the functions have their names, parameters,
visibilities and comments; and the outline has each function with the variable inside it, closed
four lines after its head, followed by the variables of the file. -/
theorem analysis_text (sample : Sample) (file : Nat) :
    Import.scan (sample.text file) = sample.foundImports file ∧
      (sample.foundImports file).map Import.isStandard =
        List.replicate sample.standardImports true ++
          (if sample.Chained file then [false] else []) ∧
      Symbol.scan (sample.text file) none .current =
        (List.range sample.functions).map (sample.foundFunction file) ∧
      (∀ f, (sample.foundFunction file f).parameterLabels = ["x: int", "y: int"]) ∧
      build (sample.text file) = sample.foundOutline file := by
  refine ⟨sample.scan_imports file, sample.map_isStandard_foundImports file, sample.scan_text file,
    fun f => ?_, sample.build_text file⟩
  show Parameter.split "x: int, y: int" = _
  decide

end LanguageServer.Sample
