import LanguageServer.Proofs.Query.Completion

/-!
# What a module keeps to itself stays in it

A function crosses from one file into another in two ways: by an entry in the table of the importing
document, and by completion after the binding of the import.  In both ways only functions pass that
the file declares for other modules.  The statement does not trust the scan that found them: it is
about the scrubbed text of the file, in which the keyword that exports a function has to stand
before its declaration (`Symbol.DeclaresExported`), and about the two places where the file may lie.
-/

namespace LanguageServer

open Text Source

/-- In the directory the import stands for the file at the path, which is one of its two candidates,
and this file declares a function of the name for other modules. -/
def Import.Exports (imp : Import) (sources : Sources) (directory : Option Path) (path : Path)
    (name : String) : Prop :=
  imp.isStandard = false ∧ ∃ folder content, directory = some folder ∧
    (path = folder.join (imp.modulePath ++ ".aelys") ∨
      path = folder.join (imp.modulePath ++ ".ae")) ∧
    imp.locate? sources folder = some path ∧ sources.read? path = some content ∧
    Symbol.DeclaresExported (scrub content.toList) name.toList

namespace Import

variable {imp : Import} {sources : Sources} {directory : Option Path} {path : Path}

lemma exports_of_provides {folder : Path} {content : String} {symbol : Symbol}
    (hstandard : imp.isStandard = false) (hfolder : directory = some folder)
    (hpath : imp.locate? sources folder = some path) (hcontent : sources.read? path = some content)
    (hprovides : imp.Provides path content symbol) :
    imp.Exports sources directory path symbol.name := by
  obtain ⟨ending, hending, hcandidate⟩ := candidate_of_locate? hpath
  have hendings : path = folder.join (imp.modulePath ++ ".aelys") ∨
      path = folder.join (imp.modulePath ++ ".ae") := by
    simp only [fileEndings, List.mem_cons, List.not_mem_nil, or_false] at hending
    rcases hending with rfl | rfl
    · left
      rw [hcandidate, String.append_assoc]
      rfl
    · right
      rw [hcandidate, String.append_assoc]
      rfl
  exact ⟨hstandard, folder, content, hfolder, hendings, hpath, hcontent, hprovides.declares⟩

/-- What completion lists for an import of a file is exported by that file. -/
lemma exports_of_mem_moduleCompletions {snapshot : Snapshot} (hplain : imp.Plain)
    (hstandard : imp.isStandard = false) {item : Completion}
    (h : item ∈ Query.moduleCompletions snapshot imp) :
    ∃ path, imp.Exports snapshot.sources snapshot.directory path item.label := by
  unfold Query.moduleCompletions at h
  split at h
  · rename_i hresolution
    rw [resolve_standard_iff.mp hresolution] at hstandard
    cases hstandard
  · rename_i path symbols hresolution
    obtain ⟨-, folder, content, hfolder, hpath, hcontent, rfl⟩ := file_of_resolve hresolution
    obtain ⟨symbol, hsymbol, rfl⟩ := List.mem_map.mp h
    have hprovides := provides_of_mem_symbolsOf hplain (List.mem_filter.mp hsymbol).1
    exact ⟨path, exports_of_provides hstandard hfolder hpath hcontent hprovides⟩
  · cases h

end Import

/-- **Private declarations never cross modules.**  Every entry that comes from a file is public, and
belongs to a function that a file of an import of the document declares for other modules; it
carries the path of that file, and its key is the name behind the alias of the import.  Every item
of completion after the binding of an import of a file names such a function of the file for which
the import stands. -/
theorem imported_functions_are_exported (library : Library) (sources : Sources)
    (directory : Option Path) (text : String) :
    (∀ key entry,
      (key, entry) ∈ (SymbolTable.merge library
        ((Import.scan text).map (·.resolve sources directory))
        (Symbol.scan text none .current)).entries →
      entry.origin = .fileImport →
      entry.visibility = .exported ∧
        ∃ imp ∈ Import.scan text, ∃ path line name,
          entry.location = some ⟨some path, line⟩ ∧ key = imp.qualified name ∧
          imp.Exports sources directory path name) ∧
    ∀ (snapshot : Snapshot) (position : Position) (imp : Import) (items : List Completion),
      Query.importBefore? snapshot position = some imp → imp.isStandard = false →
      Query.completions? snapshot position = some items →
      ∀ item ∈ items, ∃ path, imp.Exports snapshot.sources snapshot.directory path item.label := by
  constructor
  · intro key entry hmem horigin
    have hkeys := SymbolTable.nodup_keys_merge library
      ((Import.scan text).map (·.resolve sources directory)) (Symbol.scan text none .current)
    have hget := SymbolTable.get?_of_mem_entries hkeys hmem
    obtain ⟨resolved, hresolved, hcontribution⟩ :=
      SymbolTable.contribution_of_get? hget (Or.inr horigin)
    obtain ⟨imp, himp, rfl⟩ := List.mem_map.mp hresolved
    obtain ⟨hstandard, folder, path, content, symbol, hfolder, hpath, hcontent, hprovides, hname,
      rfl⟩ := ResolvedImport.provides_of_contribution? (Import.plain_of_mem_scan himp) hcontribution
        horigin
    refine ⟨hprovides.visibility, imp, himp, path, symbol.location.line, symbol.name, ?_, ?_, ?_⟩
    · rw [SymbolEntry.ofSymbol, ← hprovides.path]
    · rw [← hname, hprovides.qualifiedName]
    · exact Import.exports_of_provides hstandard hfolder hpath hcontent hprovides
  · intro snapshot position imp items himport hstandard hitems item hitem
    rw [Query.completions?_of_importBefore? himport, Option.some.injEq] at hitems
    subst hitems
    have hplain := Import.plain_of_mem_scan (Query.mem_scan_of_importBefore? himport)
    exact Import.exports_of_mem_moduleCompletions hplain hstandard hitem

/-- A file in which the keyword stands in a comment, in a literal, and once before a function with a
comment between: that function crosses, and its neighbours do not. -/
theorem imported_functions_are_exported_commented :
    let content := "// pub fn gone()\nlet s = \"pub fn no()\"\npub // seen\nfn yes()\nfn hidden()"
    let snapshot : Snapshot :=
      { address := ⟨"file", none, .segments ["w", "main.aelys"], none, none⟩
        text := "needs util as u\nu."
        path := some (.ofText "/w/main.aelys")
        library := ⟨[], [], []⟩
        sources := ⟨.empty, [(.ofText "/w/util.ae", content)]⟩ }
    let imp : Import := ⟨"util", some "u", 0⟩
    snapshot.table.entries.map (fun e => (e.1, e.2.origin)) = [("u.yes", .fileImport)] ∧
      (∃ entry, snapshot.table.entries = [("u.yes", entry)] ∧ entry.visibility = .exported) ∧
      Query.importBefore? snapshot ⟨1, 2⟩ = some imp ∧
      (Query.completions? snapshot ⟨1, 2⟩).map (·.map (·.label)) = some ["yes"] ∧
      ∃ path, imp.Exports snapshot.sources snapshot.directory path "yes" := by
  intro content snapshot imp
  have hentries : snapshot.table.entries.map (fun e => (e.1, e.2.origin)) =
      [("u.yes", .fileImport)] := by
    decide +kernel
  have himport : Query.importBefore? snapshot ⟨1, 2⟩ = some imp := by decide +kernel
  have hlabels : (Query.completions? snapshot ⟨1, 2⟩).map (·.map (·.label)) = some ["yes"] := by
    decide +kernel
  obtain ⟨htable, hcompletion⟩ := imported_functions_are_exported snapshot.library snapshot.sources
    snapshot.directory snapshot.text
  refine ⟨hentries, ?_, himport, hlabels, ?_⟩
  · obtain ⟨⟨key, entry⟩, hsingle, hentry⟩ := List.map_eq_singleton_iff.mp hentries
    obtain ⟨rfl, horigin⟩ := Prod.mk.inj hentry
    have hmem : ("u.yes", entry) ∈ snapshot.table.entries := by simp [hsingle]
    exact ⟨entry, hsingle, (htable _ _ hmem horigin).1⟩
  · obtain ⟨items, hitems, hmap⟩ := Option.map_eq_some_iff.mp hlabels
    obtain ⟨item, rfl, hlabel⟩ := List.map_eq_singleton_iff.mp hmap
    rw [← hlabel]
    exact hcompletion snapshot ⟨1, 2⟩ imp [item] himport (by decide +kernel) hitems item (by simp)

end LanguageServer
