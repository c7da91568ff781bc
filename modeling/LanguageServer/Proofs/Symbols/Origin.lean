import LanguageServer.Proofs.Symbols.Precedence
import LanguageServer.Proofs.Source.Resolve

/-!
# Where entries come from

An entry tells by its origin which layer it belongs to.  An entry with the origin of an import was
contributed by an import of the document (`SymbolTable.contribution_of_get?`), and, as long as no
function of the document has its key, every key that an import contributes has such an entry
(`SymbolTable.imported_iff`).

What a file contributes is known from `Import.Provides`; the entry carries it over
(`ResolvedImport.provides_of_contribution?`).
-/

namespace LanguageServer

namespace ResolvedImport

variable {library : Library} {key : String} {resolved : ResolvedImport} {entry : SymbolEntry}

lemma isSome_contribution?_iff :
    (resolved.contribution? library key).isSome = true ↔ key ∈ resolved.keys library := by
  obtain ⟨imported, resolution⟩ := resolved
  unfold contribution? keys
  cases resolution with
  | standard =>
    simp only [Option.isSome_map, List.findRev?_eq_find?_reverse, List.find?_isSome,
      List.mem_reverse, List.mem_map, beq_iff_eq]
  | module path symbols =>
    simp only [Option.isSome_map, List.findRev?_eq_find?_reverse, List.find?_isSome,
      List.mem_reverse, List.mem_map, List.mem_filter, Bool.and_eq_true, beq_iff_eq]
    constructor
    · rintro ⟨symbol, hmem, hexported, hname⟩
      exact ⟨symbol, ⟨hmem, hexported⟩, hname⟩
    · rintro ⟨symbol, ⟨hmem, hexported⟩, hname⟩
      exact ⟨symbol, hmem, hexported, hname⟩
  | missing => simp

lemma origin_of_contribution? (h : resolved.contribution? library key = some entry) :
    entry.origin = .libraryImport ∨ entry.origin = .fileImport := by
  obtain ⟨imported, resolution⟩ := resolved
  unfold contribution? at h
  cases resolution with
  | standard =>
    obtain ⟨f, -, rfl⟩ := Option.map_eq_some_iff.mp h
    exact Or.inl rfl
  | module path symbols =>
    obtain ⟨symbol, -, rfl⟩ := Option.map_eq_some_iff.mp h
    exact Or.inr rfl
  | missing => cases h

/-- An entry that comes from a file belongs to a function that the file provides. -/
lemma provides_of_contribution? {imp : Import} {sources : Sources} {directory : Option Path}
    (hplain : imp.Plain)
    (h : (imp.resolve sources directory).contribution? library key = some entry)
    (horigin : entry.origin = .fileImport) :
    imp.isStandard = false ∧ ∃ folder path content symbol, directory = some folder ∧
      imp.locate? sources folder = some path ∧ sources.read? path = some content ∧
      imp.Provides path content symbol ∧ symbol.qualifiedName = key ∧
      entry = .ofSymbol symbol .fileImport := by
  unfold contribution? at h
  split at h
  · obtain ⟨f, -, rfl⟩ := Option.map_eq_some_iff.mp h
    cases horigin
  · rename_i path symbols hresolution
    obtain ⟨hstandard, folder, content, hfolder, hpath, hcontent, rfl⟩ :=
      Import.file_of_resolve hresolution
    obtain ⟨symbol, hsymbol, rfl⟩ := Option.map_eq_some_iff.mp h
    rw [List.findRev?_eq_find?_reverse] at hsymbol
    have hmem := List.mem_reverse.mp (List.mem_of_find?_eq_some hsymbol)
    have hfound := List.find?_some hsymbol
    rw [Bool.and_eq_true, beq_iff_eq] at hfound
    exact ⟨hstandard, folder, path, content, symbol, hfolder, hpath, hcontent,
      Import.provides_of_mem_symbolsOf hplain hmem, hfound.2, rfl⟩
  · cases h

end ResolvedImport

namespace SymbolTable

variable {library : Library} {imports : List ResolvedImport} {symbols : List Symbol}
  {key : String} {entry : SymbolEntry}

lemma get?_of_mem_entries {table : SymbolTable} (hkeys : table.keys.Nodup)
    (h : (key, entry) ∈ table.entries) : table.get? key = some entry := by
  have hfound := (find?_eq_some_iff_of_nodup hkeys).mpr ⟨h, rfl⟩
  rw [get?, hfound, Option.map_some]

lemma origin_of_lastIn?_documentLayer (h : lastIn? key (documentLayer symbols) = some entry) :
    entry.origin = .document := by
  rw [lastIn?_documentLayer] at h
  obtain ⟨symbol, -, rfl⟩ := Option.map_eq_some_iff.mp h
  rfl

lemma origin_of_lastIn?_libraryLayer (h : lastIn? key (libraryLayer library) = some entry) :
    entry.origin = .library := by
  rw [libraryLayer, lastIn?_map] at h
  obtain ⟨f, -, rfl⟩ := Option.map_eq_some_iff.mp h
  rfl

lemma contribution_of_get? (h : (merge library imports symbols).get? key = some entry)
    (horigin : entry.origin = .libraryImport ∨ entry.origin = .fileImport) :
    ∃ resolved ∈ imports, resolved.contribution? library key = some entry := by
  rw [get?_merge, List.findSomeRev?_eq_findSome?_reverse] at h
  rcases Option.or_eq_some_iff.mp h with hdocument | ⟨-, h⟩
  · rw [origin_of_lastIn?_documentLayer hdocument] at horigin
    simp at horigin
  · rcases Option.or_eq_some_iff.mp h with himport | ⟨-, hlibrary⟩
    · obtain ⟨resolved, hmem, hresolved⟩ := List.exists_of_findSome?_eq_some himport
      exact ⟨resolved, List.mem_reverse.mp hmem, hresolved⟩
    · rw [origin_of_lastIn?_libraryLayer hlibrary] at horigin
      simp at horigin

lemma lastIn?_documentLayer_eq_none (hsymbols : ∀ symbol ∈ symbols, symbol.qualifiedName ≠ key) :
    lastIn? key (documentLayer symbols) = none := by
  rw [lastIn?_documentLayer, List.findRev?_eq_find?_reverse, Option.map_eq_none_iff,
    List.find?_eq_none]
  intro symbol hsymbol
  simpa using hsymbols symbol (List.mem_reverse.mp hsymbol)

/-- Of the imports that contribute an entry under the key, the last is found. -/
lemma exists_contributor {resolved : ResolvedImport} (hmem : resolved ∈ imports)
    (hkey : key ∈ resolved.keys library) :
    ∃ entry, imports.findSomeRev? (·.contribution? library key) = some entry ∧
      ∃ contributor ∈ imports, contributor.contribution? library key = some entry := by
  have hsome : (imports.reverse.findSome? (·.contribution? library key)).isSome = true := by
    rw [List.findSome?_isSome_iff]
    exact ⟨resolved, List.mem_reverse.mpr hmem, ResolvedImport.isSome_contribution?_iff.mpr hkey⟩
  obtain ⟨entry, hentry⟩ := Option.isSome_iff_exists.mp hsome
  obtain ⟨contributor, hcontributor, hcontribution⟩ := List.exists_of_findSome?_eq_some hentry
  rw [List.findSomeRev?_eq_findSome?_reverse]
  exact ⟨entry, hentry, contributor, List.mem_reverse.mp hcontributor, hcontribution⟩

/-- Under a key that is no name of the document stands an entry of an import exactly when an import
contributes one. -/
lemma imported_iff (hsymbols : ∀ symbol ∈ symbols, symbol.qualifiedName ≠ key) :
    (∃ entry, (merge library imports symbols).get? key = some entry ∧
        (entry.origin = .libraryImport ∨ entry.origin = .fileImport)) ↔
      ∃ resolved ∈ imports, key ∈ resolved.keys library := by
  constructor
  · rintro ⟨entry, hget, horigin⟩
    obtain ⟨resolved, hmem, hresolved⟩ := contribution_of_get? hget horigin
    exact ⟨resolved, hmem, ResolvedImport.isSome_contribution?_iff.mp (by simp [hresolved])⟩
  · rintro ⟨resolved, hmem, hkey⟩
    obtain ⟨entry, hentry, contributor, -, hcontribution⟩ := exists_contributor hmem hkey
    refine ⟨entry, ?_, ResolvedImport.origin_of_contribution? hcontribution⟩
    rw [get?_merge, lastIn?_documentLayer_eq_none hsymbols, hentry]
    rfl

end SymbolTable

end LanguageServer
