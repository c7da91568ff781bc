import Mathlib.Algebra.Ring.Nat
import Mathlib.Data.List.GetD
import LanguageServer.Proofs.Source.ImportScript
import LanguageServer.Proofs.Source.OutlineLine
import LanguageServer.Proofs.Source.SymbolScript
import LanguageServer.Sample

/-!
# Samples as they are written

The text of a sample file is put together from imports, functions and variables as they are written:
`Sample.standardImport`, `Sample.nextImport`, `Sample.function` and `Sample.binding`.  Their lines,
with an empty line after the imports and after each function, are the lines of the file
(`Sample.text_eq`).
-/

namespace LanguageServer.Sample

open Text Source LanguageServer.Symbol VariableLine

/-! ## Numbers -/

/-- A number in decimal. -/
def digits (n : Nat) : List Char :=
  Nat.toDigits 10 n

lemma isDigit_of_mem_digits {n : Nat} {c : Char} (hc : c ∈ digits n) : c.isDigit = true :=
  Nat.isDigit_of_mem_toDigits (by decide) (by decide) hc

lemma notMem_digits {c : Char} (hc : c.isDigit = false) (n : Nat) : c ∉ digits n := by
  intro hmem
  rw [isDigit_of_mem_digits hmem] at hc
  cases hc

lemma digits_ne_nil (n : Nat) : digits n ≠ [] :=
  Nat.toDigits_ne_nil

lemma isNamePart_of_mem_digits {n : Nat} {c : Char} (hc : c ∈ digits n) : isNamePart c = true := by
  rw [isNamePart, Char.isAlphanum, isDigit_of_mem_digits hc, Bool.or_true, Bool.true_or]

/-- A name that ends with a number. -/
lemma isName_append_digits {part : Char → Bool} (hpart : ∀ c, isNamePart c = true → part c = true)
    {name : List Char} (hname : isName part name = true) (n : Nat) :
    isName part (name ++ digits n) = true := by
  cases name with
  | nil => cases hname
  | cons c name =>
    rw [isName, Bool.and_eq_true] at hname
    rw [List.cons_append, isName, hname.1, List.all_append, hname.2, Bool.true_and, Bool.true_and,
      List.all_eq_true]
    exact fun d hd => hpart d (isNamePart_of_mem_digits hd)

/-- A name with two numbers in it. -/
lemma isName_numbered {part : Char → Bool} (hpart : ∀ c, isNamePart c = true → part c = true)
    {name : List Char} (hname : isName part name = true) (m n : Nat) :
    isName part (name ++ digits m ++ '_' :: digits n) = true := by
  have hfirst := isName_append_digits hpart hname m
  cases hdigits : name ++ digits m with
  | nil =>
    rw [hdigits] at hfirst
    cases hfirst
  | cons c rest =>
    rw [hdigits, isName, Bool.and_eq_true] at hfirst
    rw [List.cons_append, isName, hfirst.1, List.all_append, hfirst.2, List.all_cons,
      hpart '_' (by decide), Bool.true_and, Bool.true_and, Bool.true_and, List.all_eq_true]
    exact fun d hd => hpart d (isNamePart_of_mem_digits hd)

/-! ## Imports -/

/-- The name of an imported standard module. -/
def moduleName (file place : Nat) : List Char :=
  (module file place).toList

/-- The names of the standard modules. -/
def moduleNames : List (List Char) :=
  [['m', 'a', 't', 'h'], ['i', 'o'], ['s', 't', 'r', 'i', 'n', 'g'],
    ['c', 'o', 'n', 'v', 'e', 'r', 't'], ['t', 'i', 'm', 'e'], ['f', 's']]

lemma moduleName_mem (file place : Nat) : moduleName file place ∈ moduleNames := by
  have hnames : modules.map String.toList = moduleNames := by decide
  have hlt : (file + place) % modules.length < modules.length := Nat.mod_lt _ (by decide)
  rw [← hnames, moduleName, module, List.getD_eq_getElem modules "" hlt]
  exact List.mem_map_of_mem (List.getElem_mem hlt)

lemma isName_moduleName (file place : Nat) : isName isNamePart (moduleName file place) = true := by
  have hall : moduleNames.all (isName isNamePart) = true := by decide
  exact List.all_eq_true.mp hall _ (moduleName_mem file place)

/-- The import of a standard module. -/
def standardImport (file place : Nat) : Import.Written where
  indent := 0
  path := [['s', 't', 'd'], moduleName file place]
  alternate := some ('s' :: digits place)
  comment := none
  path_ne_nil := List.cons_ne_nil _ _
  isName_path := by
    intro name hname
    rcases List.mem_cons.mp hname with rfl | hname
    · decide
    · rw [List.mem_singleton.mp hname]
      exact isName_moduleName file place
  isName_alternate := by
    rintro name ⟨⟩
    show isName isNamePart (['s'] ++ digits place) = true
    exact isName_append_digits (fun _ h => h) (by decide) place
  feed_notMem_comment := nofun

/-- The import of the next file. -/
def nextImport (file : Nat) : Import.Written where
  indent := 0
  path := [['m', 'o', 'd', 'u', 'l', 'e', '_'] ++ digits (file + 1)]
  alternate := some ['n', 'e', 'x', 't']
  comment := none
  path_ne_nil := List.cons_ne_nil _ _
  isName_path := by
    intro name hname
    rw [List.mem_singleton.mp hname]
    exact isName_append_digits (fun _ h => h) (by decide) (file + 1)
  isName_alternate := by
    rintro name ⟨⟩
    decide
  feed_notMem_comment := nofun

/-- The imports of a file. -/
def imports (sample : Sample) (file : Nat) : List Import.Written :=
  (List.range sample.standardImports).map (standardImport file) ++
    if file < sample.chain && file + 1 < sample.files then [nextImport file] else []

lemma mem_imports {sample : Sample} {file : Nat} {w : Import.Written}
    (h : w ∈ sample.imports file) :
    (∃ place, w = standardImport file place) ∨ w = nextImport file := by
  rw [imports, List.mem_append, List.mem_map] at h
  rcases h with ⟨place, -, rfl⟩ | hnext
  · exact Or.inl ⟨place, rfl⟩
  · split at hnext
    · exact Or.inr (List.mem_singleton.mp hnext)
    · cases hnext

lemma toList_importLines (sample : Sample) (file : Nat) :
    (sample.importLines file).map String.toList =
      (sample.imports file).map Import.Written.text := by
  have hstandard : ∀ place,
      ("needs std." ++ module file place ++ " as s" ++ toString place).toList =
      (standardImport file place).text := by
    intro place
    simp [Import.Written.text, Import.Written.code, Import.Written.commentText, standardImport,
      Import.spelled, Import.written, Import.keyword, Import.beforeAlternate, joinWith, moduleName,
      digits]
  have hnext : ("needs module_" ++ toString (file + 1) ++ " as next").toList =
      (nextImport file).text := by
    simp [Import.Written.text, Import.Written.code, Import.Written.commentText, nextImport,
      Import.spelled, Import.written, Import.keyword, Import.beforeAlternate, joinWith,
      digits]
  rw [importLines, imports, List.map_append, List.map_append, List.map_map, List.map_map]
  refine congrArg₂ (· ++ ·) ?_ ?_
  · exact List.map_congr_left fun place _ => hstandard place
  · split
    · rw [List.map_singleton, List.map_singleton, hnext]
    · rfl

/-! ## Functions -/

/-- A parameter of type `int`. -/
def intParameter (name : Char) (hname : isNameStart name = true) : WrittenParameter where
  name := [name]
  type := some ['i', 'n', 't']
  isName_name := by rw [isName, hname]; rfl
  isName_type := by
    rintro t ⟨⟩
    decide

/-- The head of a function. -/
def functionHead (file f : Nat) : WrittenHead where
  visibility := if isExported f then .exported else .internal
  name := ['f', 'u', 'n', 'c', '_'] ++ digits file ++ '_' :: digits f
  parameters := [intParameter 'x' (by decide), intParameter 'y' (by decide)]
  isName_name := isName_numbered (fun _ => isWord_of_isNamePart) (by decide) file f

lemma list_functionHead (file f : Nat) : (functionHead file f).list =
    ['x', ':', ' ', 'i', 'n', 't', ',', ' ', 'y', ':', ' ', 'i', 'n', 't'] := rfl

/-- What the comment of an exported function says. -/
def functionDoc (file f : Nat) : List Char :=
  ['C', 'o', 'm', 'p', 'u', 't', 'e', 's', ' ', 'v', 'a', 'l', 'u', 'e', ' '] ++ digits f ++
    ([' ', 'o', 'f', ' ', 'm', 'o', 'd', 'u', 'l', 'e', ' '] ++ digits file)

/-- The variable in a function. -/
def result (f : Nat) : Assignment where
  indent := 4
  isMutable := false
  name := ['r', 'e', 's', 'u', 'l', 't']
  value := ['x', ' ', '+', ' ', 'y', ' ', '*', ' '] ++ digits (f + 1)
  isName_name := by decide
  quote_notMem_value := by simp [notMem_digits]
  slash_notMem_value := by simp [notMem_digits]

lemma line_result (f : Nat) : (result f).line =
    [' ', ' ', ' ', ' ', 'l', 'e', 't', ' ', 'r', 'e', 's', 'u', 'l', 't', ' ', '=', ' ',
      'x', ' ', '+', ' ', 'y', ' ', '*', ' '] ++ digits (f + 1) := rfl

/-- The line of a function that holds a whole block. -/
def blockLine : List Char :=
  [' ', ' ', ' ', ' ', 'i', 'f', ' ', 'r', 'e', 's', 'u', 'l', 't', ' ', '>', ' ', '1', '0', '0',
    ' ', '{', ' ', 'r', 'e', 't', 'u', 'r', 'n', ' ', '0', ' ', '}']

/-- The last line of the body of a function. -/
def returnLine : List Char :=
  [' ', ' ', ' ', ' ', 'r', 'e', 't', 'u', 'r', 'n', ' ', 'r', 'e', 's', 'u', 'l', 't']

lemma trim_functionDoc (file f : Nat) : trim (functionDoc file f) = functionDoc file f := by
  rw [trim_eq_self_iff]
  constructor
  · rintro c ⟨⟩
    decide
  · intro c hc
    have hlast : (functionDoc file f).getLast? = (digits file).getLast? := by
      rw [functionDoc, ← List.append_assoc, List.getLast?_append,
        Option.or_of_isSome (List.getLast?_isSome.mpr (digits_ne_nil file))]
    rw [hlast] at hc
    rw [Bool.eq_false_iff]
    intro hblank
    have hpart := isNamePart_of_mem_digits (List.mem_of_getLast? hc)
    rw [isNamePart_of_isBlank hblank] at hpart
    cases hpart

/-- No keyword of a function is in the lines of the body. -/
lemma keyword_notIn_body (f : Nat) : ∀ line ∈ [(result f).line, blockLine, returnLine],
    ¬ functionKeyword <:+: scrubLine line := by
  intro line hline
  simp only [List.mem_cons, List.not_mem_nil, or_false] at hline
  rcases hline with rfl | rfl | rfl
  · rw [(result f).scrubLine_line]
    intro hin
    have hf : 'f' ∈ (result f).line := hin.subset (by decide)
    simp [line_result, notMem_digits] at hf
  · decide
  · decide

/-- A function of a file. -/
def function (file f : Nat) : WrittenFunction where
  head := functionHead file f
  docs := if isExported f then [functionDoc file f] else []
  body := [(result f).line, blockLine, returnLine]
  trim_docs := by
    intro doc hdoc
    split at hdoc
    · rw [List.mem_singleton.mp hdoc, trim_functionDoc]
    · cases hdoc
  docs_ne_nil := by
    intro doc hdoc
    split at hdoc
    · rw [List.mem_singleton.mp hdoc]
      exact List.cons_ne_nil _ _
    · cases hdoc
  feed_notMem_docs := by
    intro doc hdoc
    split at hdoc
    · rw [List.mem_singleton.mp hdoc]
      simp [functionDoc, notMem_digits]
    · cases hdoc
  feed_notMem_body := by
    intro line hline
    simp only [List.mem_cons, List.not_mem_nil, or_false] at hline
    rcases hline with rfl | rfl | rfl
    · simp [line_result, notMem_digits]
    · decide
    · decide
  keyword_notIn_body := keyword_notIn_body f

lemma toList_functionLines (file f : Nat) :
    (functionLines file f).map String.toList = (function file f).lines ++ [[]] := by
  have hhead : ((if isExported f then "pub fn func_" else "fn func_") ++ toString file ++ "_" ++
      toString f ++ "(x: int, y: int) \x7b").toList = (functionHead file f).line := by
    by_cases hexported : isExported f = true
    · simp [WrittenHead.line, WrittenHead.text, WrittenHead.opening, WrittenHead.lead,
        WrittenHead.list, functionHead, hexported, exportKeyword, functionKeyword, joinWith,
        WrittenParameter.text, intParameter, digits]
    · simp [WrittenHead.line, WrittenHead.text, WrittenHead.opening, WrittenHead.lead,
        WrittenHead.list, functionHead, hexported, functionKeyword, joinWith,
        WrittenParameter.text, intParameter, digits]
  have hdoc : ("// Computes value " ++ toString f ++ " of module " ++ toString file).toList =
      comment (functionDoc file f) := by
    simp [comment, functionDoc, digits]
  have hresult : ("    let result = x + y * " ++ toString (f + 1)).toList = (result f).line := by
    simp [line_result, digits]
  have hblock : "    if result > 100 \x7b return 0 \x7d".toList = blockLine := by decide
  have hreturn : "    return result".toList = returnLine := by decide
  have hbrace : "\x7d".toList = ['}'] := by decide
  rw [functionLines, List.map_append, WrittenFunction.lines, WrittenFunction.block]
  simp only [List.map_cons, List.map_nil, hhead, hresult, hblock, hreturn, hbrace, function]
  by_cases hexported : isExported f = true
  · simp only [if_pos hexported, List.map_singleton, hdoc]
    rfl
  · simp only [if_neg hexported]
    rfl

/-! ## Variables -/

/-- A variable of a file. -/
def binding (file v : Nat) : Assignment where
  indent := 0
  isMutable := true
  name := ['v', 'a', 'r', '_'] ++ digits file ++ '_' :: digits v
  value := digits (v + 1)
  isName_name := isName_numbered (fun _ => isWord_of_isNamePart) (by decide) file v
  quote_notMem_value := notMem_digits (by decide) (v + 1)
  slash_notMem_value := notMem_digits (by decide) (v + 1)

lemma line_binding (file v : Nat) : (binding file v).line =
    ['l', 'e', 't', ' ', 'm', 'u', 't', ' ', 'v', 'a', 'r', '_'] ++
      (digits file ++ '_' :: (digits v ++ ([' ', '=', ' '] ++ digits (v + 1)))) := by
  simp [Assignment.line, Assignment.text, Assignment.gap, Assignment.rest, variableKeyword,
    mutableKeyword, binding]

lemma toList_variableLine (file v : Nat) :
    (variableLine file v).toList = (binding file v).line := by
  show ("let mut var_" ++ toString file ++ "_" ++ toString v ++ " = " ++
    toString (v + 1)).toList = _
  simp [line_binding, digits]

/-! ## The whole file -/

/-- The lines of the functions of a file, with an empty line after each. -/
def functionBlocks (file : Nat) (fs : List Nat) : List (List Char) :=
  fs.flatMap fun f => (function file f).lines ++ [[]]

/-- The lines of the variables of a file. -/
def bindingLines (file : Nat) (vs : List Nat) : List (List Char) :=
  vs.map fun v => (binding file v).line

lemma join_lines (ls : List String) :
    String.join (ls.map (· ++ "\n")) = String.ofList (unlines true (ls.map String.toList)) := by
  rw [← String.toList_inj, String.toList_ofList]
  induction ls with
  | nil => rfl
  | cons line rest ih =>
    rw [List.map_cons, List.map_cons, String.join_cons, String.toList_append, ih,
      unlines_ended_cons]
    simp

/-- The text of a file is put together from its parts. -/
lemma text_eq (sample : Sample) (file : Nat) :
    sample.text file = String.ofList (unlines true
      ((sample.imports file).map Import.Written.text ++ ([[]] ++
        (functionBlocks file (List.range sample.functions) ++
          bindingLines file (List.range sample.bindings))))) := by
  have hlines : (sample.lines file).map String.toList =
      (sample.imports file).map Import.Written.text ++ ([[]] ++
        (functionBlocks file (List.range sample.functions) ++
          bindingLines file (List.range sample.bindings))) := by
    rw [lines, List.map_append, List.map_append, List.map_append, toList_importLines,
      List.append_assoc, List.append_assoc]
    congr 3
    · rw [functionBlocks, List.flatMap, List.map_flatten, List.map_map]
      congr 1
      exact List.map_congr_left fun f _ => toList_functionLines file f
    · rw [bindingLines, List.map_map]
      exact List.map_congr_left fun v _ => toList_variableLine file v
  rw [← hlines, text, join_lines]

end LanguageServer.Sample
