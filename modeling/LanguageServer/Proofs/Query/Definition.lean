import LanguageServer.Proofs.Source.FunctionName
import LanguageServer.Proofs.Source.Import
import LanguageServer.Query.Definition

/-!
# Going to a function of a module that is missing

A dotted word asks for a function of a module.  When the import before the dot stands for a file
and there is no such file, the question is answered as if nothing stood before the dot: the document
itself is searched.  So the answer may be a function of the document that has only its name in
common with the one that was asked for (`Query.definition_may_leave_module`).

`Query.definition_of_missing_module` says when this happens.  There is no answer exactly if the
document lies in no directory or its code names no function like the word after the first dot, and
an answer is the first line of the document that does.
-/

namespace LanguageServer

open Text Source

namespace Import

variable {imp : Import} {sources : Sources} {folder : Path}

lemma locate?_eq_none (h : ∀ file ∈ imp.candidates,
    sources.isOpen (folder.join file) = false ∧ sources.files.isFile (folder.join file) = false) :
    imp.locate? sources folder = none := by
  unfold locate?
  split
  · rfl
  · rw [List.find?_eq_none]
    intro path hpath
    obtain ⟨file, hfile, rfl⟩ := List.mem_map.mp hpath
    obtain ⟨hopen, hisFile⟩ := h file hfile
    simp [Sources.holds, hopen, hisFile]

end Import

namespace Query

variable {snapshot : Snapshot}

/-- The word up to its first dot. -/
def firstSegment (word : String) : String :=
  String.ofList (word.toList.takeWhile (· != '.'))

/-- A dotted word is taken apart into the binding, the function and what else there is. -/
lemma definitionWord?_dotted {binding rest : String} (hbinding : '.' ∉ binding.toList) :
    definitionWord? snapshot (binding ++ "." ++ rest) =
      definitionOf? snapshot binding (firstSegment rest) := by
  have hword : (binding ++ "." ++ rest).toList = binding.toList ++ '.' :: rest.toList := by simp
  obtain ⟨others, hothers⟩ := @splitOn_eq_cons _ _ '.' rest.toList
  rw [definitionWord?, hword, splitOn_append, splitOn_of_notMem hbinding, hothers,
    List.singleton_append]
  simp only [String.ofList_toList, firstSegment]

lemma definitionOf?_of_missing {imp : Import} {binding : String} (name : String)
    (himport : Import.find? (Import.scan snapshot.text) binding = some imp)
    (hlocal : imp.isStandard = false)
    (hmissing : ∀ folder ∈ snapshot.directory, imp.locate? snapshot.sources folder = none) :
    definitionOf? snapshot binding name =
      snapshot.directory.bind fun _ => definitionHere? snapshot name := by
  simp only [definitionOf?, himport, hlocal, Bool.false_eq_true, if_false]
  cases hdirectory : snapshot.directory with
  | none => rfl
  | some folder => simp only [hmissing folder hdirectory, Option.bind_some]

/-! ## Searching the document -/

/-- The code on the line with the number names the function. -/
def NamedOn (text name : String) (number : Nat) : Prop :=
  ∃ line ∈ (lines text.toList)[number]?, FunctionLine.Names (scrubLine line) name.toList

lemma definitionHere?_eq_none_iff {name : String} :
    definitionHere? snapshot name = none ↔ ∀ number, ¬ NamedOn snapshot.text name number := by
  simp only [definitionHere?, Option.map_eq_none_iff, FunctionLine.findIn?,
    List.findIdx?_eq_none_iff, NamedOn, ← FunctionLine.declares_iff_names, not_exists, not_and,
    Bool.not_eq_true, Option.mem_def]
  constructor
  · intro h number line hline
    exact h line (List.mem_of_getElem? hline)
  · intro h line hline
    obtain ⟨number, hnumber⟩ := List.mem_iff_getElem?.mp hline
    exact h number line hnumber

lemma namedOn_of_definitionHere? {name : String} {found : Definition}
    (h : definitionHere? snapshot name = some found) :
    found.address = snapshot.address ∧ NamedOn snapshot.text name found.line ∧
      ∀ earlier < found.line, ¬ NamedOn snapshot.text name earlier := by
  obtain ⟨number, hnumber, rfl⟩ := Option.map_eq_some_iff.mp h
  obtain ⟨hlt, hdeclares, hfirst⟩ := List.findIdx?_eq_some_iff_getElem.mp hnumber
  refine ⟨rfl, ⟨_, List.getElem?_eq_getElem hlt, FunctionLine.declares_iff_names.mp hdeclares⟩, ?_⟩
  rintro earlier hearlier ⟨line, hline, hnames⟩
  obtain ⟨_, rfl⟩ := List.getElem?_eq_some_iff.mp hline
  exact hfirst earlier hearlier (FunctionLine.declares_iff_names.mpr hnames)

/-! ## The answer -/

/-- **What is asked of a missing module is answered by the document.**  The word at the position is
a binding, a dot and a rest; the first import with the binding stands for a file, and no candidate
is open or on disk.  Then there is no answer exactly if the document lies in no directory or no line
of it names the function, and an answer is the first line of the document that names it. -/
theorem definition_of_missing_module {snapshot : Snapshot} {position : Position}
    {binding rest : String} {imp : Import}
    (hword : word? snapshot.text position = some (binding ++ "." ++ rest))
    (himport : Import.find? (Import.scan snapshot.text) binding = some imp)
    (hlocal : imp.isStandard = false)
    (hmissing : ∀ folder ∈ snapshot.directory, ∀ file ∈ imp.candidates,
      snapshot.sources.isOpen (folder.join file) = false ∧
        snapshot.sources.files.isFile (folder.join file) = false) :
    (definition? snapshot position = none ↔
      snapshot.directory = none ∨ ∀ number, ¬ NamedOn snapshot.text (firstSegment rest) number) ∧
    ∀ found ∈ definition? snapshot position,
      found.address = snapshot.address ∧ NamedOn snapshot.text (firstSegment rest) found.line ∧
        ∀ earlier < found.line, ¬ NamedOn snapshot.text (firstSegment rest) earlier := by
  have hbinding : '.' ∉ binding.toList := by
    have hplain := Import.plain_of_mem_scan (List.mem_of_find?_eq_some himport)
    have hsame : imp.binding = binding := by simpa using List.find?_some himport
    exact hsame ▸ hplain.dot_notMem_binding
  have hanswer : definition? snapshot position =
      snapshot.directory.bind fun _ => definitionHere? snapshot (firstSegment rest) := by
    rw [definition?, hword, Option.bind_some, definitionWord?_dotted hbinding]
    exact definitionOf?_of_missing _ himport hlocal fun folder hfolder =>
      Import.locate?_eq_none (hmissing folder hfolder)
  rw [hanswer]
  constructor
  · cases hdirectory : snapshot.directory with
    | none => simp
    | some folder =>
      rw [Option.bind_some, definitionHere?_eq_none_iff]
      simp
  · intro found hfound
    obtain ⟨-, -, hhere⟩ := Option.bind_eq_some_iff.mp hfound
    exact namedOn_of_definitionHere? hhere

/-- A document with the text, in a directory that holds no other file. -/
def alone (text : String) : Snapshot :=
  { address := ⟨"file", none, .segments ["w", "main.aelys"], none, none⟩
    text
    path := some (.ofText "/w/main.aelys")
    library := ⟨[], [], []⟩
    sources := ⟨.empty, []⟩ }

/-- The name in a comment does not count, and the segments behind the second dot do not either. -/
theorem definition_of_missing_module_commented :
    let snapshot := alone "needs util\n// fn area()\nfn area(w)\nutil.area.x(1)"
    let imp : Import := ⟨"util", none, 0⟩
    word? snapshot.text ⟨3, 6⟩ = some ("util" ++ "." ++ "area.x") ∧
      Import.find? (Import.scan snapshot.text) "util" = some imp ∧ imp.isStandard = false ∧
      definition? snapshot ⟨3, 6⟩ = some ⟨snapshot.address, 2⟩ ∧
      NamedOn snapshot.text "area" 2 ∧ ¬ NamedOn snapshot.text "area" 1 := by
  intro snapshot imp
  have hword : word? snapshot.text ⟨3, 6⟩ = some ("util" ++ "." ++ "area.x") := by decide +kernel
  have himport : Import.find? (Import.scan snapshot.text) "util" = some imp := by decide +kernel
  have hlocal : imp.isStandard = false := by decide +kernel
  have hmissing : ∀ folder ∈ snapshot.directory, ∀ file ∈ imp.candidates,
      snapshot.sources.isOpen (folder.join file) = false ∧
        snapshot.sources.files.isFile (folder.join file) = false := by
    decide +kernel
  have hanswer : definition? snapshot ⟨3, 6⟩ = some ⟨snapshot.address, 2⟩ := by decide +kernel
  obtain ⟨-, hnamed, hfirst⟩ :=
    (definition_of_missing_module hword himport hlocal hmissing).2 _ hanswer
  exact ⟨hword, himport, hlocal, hanswer, hnamed, hfirst 1 (by decide)⟩

/-- No file stands for the import, and the answer is a function of the document. -/
theorem definition_may_leave_module :
    let snapshot := alone "needs util\nfn area(w) \x7b return w \x7d\nutil.area(1)"
    let imp : Import := ⟨"util", none, 0⟩
    word? snapshot.text ⟨2, 6⟩ = some "util.area" ∧
      Import.find? (Import.scan snapshot.text) "util" = some imp ∧ imp.isStandard = false ∧
      (∀ folder ∈ snapshot.directory, ∀ file ∈ imp.candidates,
        snapshot.sources.isOpen (folder.join file) = false ∧
          snapshot.sources.files.isFile (folder.join file) = false) ∧
      definition? snapshot ⟨2, 6⟩ = some ⟨snapshot.address, 1⟩ := by
  decide +kernel

end Query

end LanguageServer
