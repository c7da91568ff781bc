import LanguageServer.Proofs.Source.Import
import LanguageServer.Proofs.Source.Symbol
import LanguageServer.Source.Resolve

/-!
# What an import stands for

An import of the standard library stands for itself and never for a file
(`Import.resolve_standard_iff`).  An import that stands for a file stands for one of its candidates
in the directory of the document, and its functions are read from the text that is found there
(`Import.file_of_resolve`).

The functions of such a file are declared in it for other modules, they carry the path of the file,
and they are looked up by their names behind the alias of the import, or by their bare names when
there is no alias.
-/

namespace LanguageServer.Import

open Text Source

variable {imp : Import} {sources : Sources} {directory : Option Path} {path : Path}
  {symbols : List Symbol}

lemma resolve_standard_iff :
    (imp.resolve sources directory).resolution = .standard ↔ imp.isStandard = true := by
  unfold resolve
  by_cases hstandard : imp.isStandard = true
  · simp [hstandard]
  · simp only [hstandard]
    constructor
    · intro h
      split at h
      · contradiction
      · split at h
        · cases h
        · split at h <;> cases h
    · intro h
      cases h

/-- An import that stands for a file stands for a candidate in the directory of the document. -/
lemma file_of_resolve (h : (imp.resolve sources directory).resolution = .module path symbols) :
    imp.isStandard = false ∧ ∃ folder content, directory = some folder ∧
      imp.locate? sources folder = some path ∧ sources.read? path = some content ∧
      symbols = imp.symbolsOf path content := by
  unfold resolve at h
  split at h
  · cases h
  · rename_i hstandard
    split at h
    · cases h
    · rename_i located hlocated
      obtain ⟨folder, hfolder, hpath⟩ := Option.bind_eq_some_iff.mp hlocated
      split at h
      · cases h
      · rename_i content hcontent
        cases h
        exact ⟨by simpa using hstandard, folder, content, hfolder, hpath, hcontent, rfl⟩

lemma candidate_of_locate? {folder : Path} (h : imp.locate? sources folder = some path) :
    ∃ ending ∈ fileEndings, path = folder.join (imp.modulePath ++ "." ++ ending) := by
  unfold locate? at h
  split at h
  · cases h
  · have hmem := List.mem_of_find?_eq_some h
    simp only [candidates, List.map_map, List.mem_map, Function.comp_apply] at hmem
    obtain ⟨ending, hending, rfl⟩ := hmem
    exact ⟨ending, hending, rfl⟩

/-! ## The functions of a file -/

/-- The name by which code calls a function of an imported file. -/
def qualified (imp : Import) (name : String) : String :=
  (imp.alternate.map (· ++ "." ++ name)).getD name

/-- What is known of every function that an import finds in a file. -/
structure Provides (imp : Import) (path : Path) (content : String) (symbol : Symbol) : Prop where
  visibility : symbol.visibility = .exported
  path : symbol.location.path = some path
  declares : Symbol.DeclaresExported (scrub content.toList) symbol.name.toList
  dot_notMem : '.' ∉ symbol.name.toList
  qualifiedName : symbol.qualifiedName = imp.qualified symbol.name

lemma Plain.alternate_ne (h : imp.Plain) : imp.alternate ≠ some "" := by
  intro hempty
  have hname := h.alternate "" (by simp [hempty])
  simp [isName] at hname

lemma provides_of_mem_symbolsOf (hplain : imp.Plain) {content : String} {symbol : Symbol}
    (h : symbol ∈ imp.symbolsOf path content) : imp.Provides path content symbol := by
  obtain ⟨found, hfound, rfl⟩ := List.mem_map.mp h
  obtain ⟨hvisible, hdeclares⟩ := Symbol.declaresExported_of_mem_scan hfound
  have hdot := Symbol.dot_notMem_of_mem_scan hfound
  have hqualified := Symbol.qualifiedName_of_mem_scan hplain.alternate_ne hfound
  exact ⟨hvisible, rfl, hdeclares, hdot, hqualified⟩

end LanguageServer.Import
