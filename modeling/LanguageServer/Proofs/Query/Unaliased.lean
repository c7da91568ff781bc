import LanguageServer.Proofs.Query.Completion
import LanguageServer.Proofs.Source.CallSite
import LanguageServer.Query.Hover
import LanguageServer.Query.Signature

/-!
# Files that are imported without an alias

Completion after the binding of such an import and a dot lists what the file exports, but the table
of the document has these functions under their bare names.  So it is the bare name that can be
used: signature help at a call of it and hover on it show the entry of the table (`Query.Shows`),
which belongs to the file unless something later declares the name (`Snapshot.IsLast`).  Behind the
binding and a dot nothing of the file is found: what the document knows of such a name is what the
library knows of it (`Query.get?_behind_binding`).

Both are `Query.unaliased_functions_are_bare`.
-/

namespace LanguageServer

open Text Source

/-! ## What the file contributes -/

namespace Import

variable {imp : Import} {sources : Sources} {directory : Option Path} {path : Path}
  {symbols : List Symbol}

lemma qualifiedName_of_unaliased (hplain : imp.Plain) (halternate : imp.alternate = none)
    (hfile : (imp.resolve sources directory).resolution = .module path symbols) :
    ∀ symbol ∈ symbols, symbol.isExported = true ∧ symbol.qualifiedName = symbol.name ∧
      isName isWord symbol.name.toList = true := by
  intro symbol hsymbol
  obtain ⟨-, _, content, -, -, -, rfl⟩ := file_of_resolve hfile
  have hprovides := provides_of_mem_symbolsOf hplain hsymbol
  have hname : isName isWord symbol.name.toList = true := by
    obtain ⟨found, hfound, rfl⟩ := List.mem_map.mp hsymbol
    have hword := Symbol.isName_of_mem_scan hfound
    exact hword
  refine ⟨?_, ?_, hname⟩
  · rw [Symbol.isExported, hprovides.visibility]
    rfl
  · rw [hprovides.qualifiedName, qualified, halternate]
    rfl

end Import

lemma ResolvedImport.isSome_location {library : Library} {key : String} {resolved : ResolvedImport}
    {entry : SymbolEntry} (hdot : '.' ∉ key.toList)
    (h : resolved.contribution? library key = some entry) : entry.location.isSome = true := by
  obtain ⟨imported, resolution⟩ := resolved
  unfold contribution? at h
  cases resolution with
  | standard =>
    obtain ⟨f, hf, -⟩ := Option.map_eq_some_iff.mp h
    rw [List.findRev?_eq_find?_reverse] at hf
    have hkey : libraryKey imported f = key := by simpa using List.find?_some hf
    rw [← hkey] at hdot
    exact absurd (dot_mem_dotted _ _) hdot
  | module path symbols =>
    obtain ⟨symbol, -, rfl⟩ := Option.map_eq_some_iff.mp h
    rfl
  | missing => cases h

namespace SymbolTable

variable {library : Library} {key : String} {entry : SymbolEntry} {resolved : ResolvedImport}

/-- A bare name that an import contributes has an entry that tells where it is declared. -/
lemma exists_declared {imports : List ResolvedImport} (hdot : '.' ∉ key.toList)
    (hmem : resolved ∈ imports) (hkey : key ∈ resolved.keys library) (symbols : List Symbol) :
    ∃ entry, (merge library imports symbols).get? key = some entry ∧
      entry.location.isSome = true := by
  rw [get?_merge]
  cases hdocument : lastIn? key (documentLayer symbols) with
  | some entry =>
    rw [lastIn?_documentLayer] at hdocument
    obtain ⟨symbol, -, rfl⟩ := Option.map_eq_some_iff.mp hdocument
    exact ⟨_, rfl, rfl⟩
  | none =>
    obtain ⟨entry, hentry, contributor, -, hcontribution⟩ := exists_contributor hmem hkey
    rw [hentry]
    exact ⟨entry, rfl, ResolvedImport.isSome_location hdot hcontribution⟩

lemma findSomeRev?_eq_none {imports : List ResolvedImport}
    (h : ∀ resolved ∈ imports, key ∉ resolved.keys library) :
    imports.findSomeRev? (·.contribution? library key) = none := by
  rw [List.findSomeRev?_eq_findSome?_reverse, List.findSome?_eq_none_iff]
  intro resolved hresolved
  rw [← Option.not_isSome_iff_eq_none, ResolvedImport.isSome_contribution?_iff]
  exact h resolved (List.mem_reverse.mp hresolved)

/-- The entry of an import stands when nothing that is put into the table later has its key. -/
lemma get?_of_last {earlier later : List ResolvedImport} {symbols : List Symbol}
    (hsymbols : ∀ symbol ∈ symbols, symbol.qualifiedName ≠ key)
    (hlater : ∀ other ∈ later, key ∉ other.keys library)
    (h : resolved.contribution? library key = some entry) :
    (merge library (earlier ++ resolved :: later) symbols).get? key = some entry := by
  have hnone := findSomeRev?_eq_none hlater
  have hlast : (earlier ++ resolved :: later).findSomeRev? (·.contribution? library key) =
      some entry := by
    rw [List.findSomeRev?_eq_findSome?_reverse] at hnone ⊢
    rw [List.reverse_append, List.reverse_cons, List.append_assoc, List.findSome?_append, hnone,
      List.singleton_append, List.findSome?_cons, h]
    rfl
  rw [get?_merge, lastIn?_documentLayer_eq_none hsymbols, hlast]
  rfl

lemma get?_of_library {imports : List ResolvedImport} {symbols : List Symbol}
    (hsymbols : ∀ symbol ∈ symbols, symbol.qualifiedName ≠ key)
    (himports : ∀ resolved ∈ imports, key ∉ resolved.keys library) :
    (merge library imports symbols).get? key = (merge library [] []).get? key := by
  have hnone : lastIn? key (documentLayer []) = none := rfl
  rw [get?_merge, get?_merge, lastIn?_documentLayer_eq_none hsymbols, findSomeRev?_eq_none himports,
    hnone, List.findSomeRev?]

end SymbolTable

/-! ## What the document says about a name -/

/-- The signature of an entry, with its first parameter marked. -/
def SymbolEntry.signature (entry : SymbolEntry) : SignatureHelp :=
  ⟨entry.label, entry.documentation, entry.parameters, 0⟩

namespace Query

variable {snapshot : Snapshot} {name : String} {entry : SymbolEntry} {position : Position}

/-- The position is in code, right after the name and an opening parenthesis, and nothing that is
looked up with the name stands before it. -/
def AtCall (text name : String) (position : Position) : Prop :=
  ∃ before, scrub (takeBytes (position.byteOffset text.toList) text.toList) =
      before ++ name.toList ++ ['('] ∧
    ∀ c ∈ before.getLast?, isLookupPart c = false

/-- Right after the parenthesis of a call the called name is looked up. -/
lemma signature?_of_atCall (hne : name.toList ≠ [])
    (hname : ∀ c ∈ name.toList, isLookupPart c = true)
    (h : AtCall snapshot.text name position) :
    signature? snapshot position =
      (snapshot.table.lookup snapshot.library name).map SymbolEntry.signature := by
  obtain ⟨before, hscrub, hbefore⟩ := h
  have hsite : CallSite.locate? snapshot.text (position.byteOffset snapshot.text.toList) =
      some ⟨name, 0⟩ := by
    -- Nothing has been written of the first argument yet.
    have hcall := CallSite.atEnd?_of_scrub hne hname hbefore (List.cons_ne_nil [] []) (by decide)
      hscrub
    rwa [String.ofList_toList] at hcall
  have hempty : name ≠ "" := by
    rintro rfl
    exact hne rfl
  rw [signature?, hsite, Option.bind_some, signatureAt?, if_neg hempty]
  simp only [CallSite.activeParameter, Nat.zero_min]
  rfl

/-- The document shows the entry for the name: signature help at a call of the name, if lookups take
it as a whole, and hover on it. -/
structure Shows (snapshot : Snapshot) (name : String) (entry : SymbolEntry) : Prop where
  signature : name.toList.all isLookupPart = true → ∀ position, AtCall snapshot.text name position →
    signature? snapshot position = some entry.signature
  hover : ∀ position, word? snapshot.text position = some name →
    hover? snapshot position = some entry.hover

lemma shows_of_get? (hname : isName isWord name.toList = true)
    (hget : snapshot.table.get? name = some entry) (hlocation : entry.location.isSome = true) :
    Shows snapshot name entry := by
  constructor
  · intro hpart position hcall
    rw [signature?_of_atCall (ne_nil_of_isName hname) (List.all_eq_true.mp hpart) hcall,
      SymbolTable.lookup, hget]
    rfl
  · intro position hword
    have hsign : name.toList.head? ≠ some '@' := by
      intro hhead
      exact notMem_of_isName hname (by decide) (by decide) (List.mem_of_head? hhead)
    have hdot : ¬ name.toList.contains '.' = true := by
      rw [List.contains_iff_mem]
      exact notMem_of_isName hname (by decide) (by decide)
    rw [hover?, hword, Option.bind_some, hoverWord?, if_neg hsign, if_neg hdot, hoverPlain?, hget,
      Option.filter_some, if_pos hlocation]
    rfl

/-- The document says about the dotted name what it would say without imports and functions of its
own. -/
structure ShowsLibrary (snapshot : Snapshot) (name : String) : Prop where
  signature : name.toList.all isLookupPart = true → ∀ position, AtCall snapshot.text name position →
    signature? snapshot position =
      ((SymbolTable.merge snapshot.library [] []).get? name).map SymbolEntry.signature
  hover : ∀ position, word? snapshot.text position = some name →
    hover? snapshot position =
      hoverDotted? snapshot.library (SymbolTable.merge snapshot.library [] []) name

lemma showsLibrary_of_get? {lead : String} (hlead : isName isNamePart lead.toList = true)
    (hget : snapshot.table.get? (lead ++ "." ++ name) =
      (SymbolTable.merge snapshot.library [] []).get? (lead ++ "." ++ name)) :
    ShowsLibrary snapshot (lead ++ "." ++ name) := by
  have hdot : (lead ++ "." ++ name).toList.contains '.' = true := by
    rw [List.contains_iff_mem]
    exact dot_mem_dotted lead name
  constructor
  · intro hpart position hcall
    have hne : (lead ++ "." ++ name).toList ≠ [] := List.ne_nil_of_mem (dot_mem_dotted lead name)
    rw [signature?_of_atCall hne (List.all_eq_true.mp hpart) hcall, SymbolTable.lookup, ← hget]
    cases hentry : snapshot.table.get? (lead ++ "." ++ name) with
    | some entry => rfl
    | none =>
      simp only [if_pos hdot]
  · intro position hword
    have hsign : (lead ++ "." ++ name).toList.head? ≠ some '@' := by
      obtain ⟨c, cs, hcs⟩ := List.exists_cons_of_ne_nil (ne_nil_of_isName hlead)
      have hc : c ∈ lead.toList := by simp [hcs]
      intro hhead
      have hat : c = '@' := by simpa [hcs] using hhead
      exact notMem_of_isName hlead (by decide) (by decide) (hat ▸ hc)
    rw [hover?, hword, Option.bind_some, hoverWord?, if_neg hsign, if_pos hdot, hoverDotted?, hget]
    rfl

end Query

/-! ## Both together -/

/-- Neither a later import nor the document itself declares the name. -/
def Snapshot.IsLast (snapshot : Snapshot) (imp : Import) (name : String) : Prop :=
  (∀ symbol ∈ Symbol.scan snapshot.text none .current, symbol.name ≠ name) ∧
    ∃ earlier later, Import.scan snapshot.text = earlier ++ imp :: later ∧
      ∀ other ∈ later,
        name ∉ (other.resolve snapshot.sources snapshot.directory).keys snapshot.library

namespace Query

section Unaliased

variable {snapshot : Snapshot} {imp : Import} {path : Path} {symbols : List Symbol} {name : String}
  (hmem : imp ∈ Import.scan snapshot.text) (halternate : imp.alternate = none)
  (hfile : (imp.resolve snapshot.sources snapshot.directory).resolution = .module path symbols)

include hmem halternate hfile

lemma filter_isExported : symbols.filter (·.isExported) = symbols := by
  have hbare := Import.qualifiedName_of_unaliased (Import.plain_of_mem_scan hmem) halternate hfile
  exact List.filter_eq_self.mpr fun symbol hsymbol => (hbare symbol hsymbol).1

lemma keys_of_unaliased :
    (imp.resolve snapshot.sources snapshot.directory).keys snapshot.library =
      symbols.map (·.name) := by
  have hbare := Import.qualifiedName_of_unaliased (Import.plain_of_mem_scan hmem) halternate hfile
  rw [ResolvedImport.keys, hfile]
  simp only [filter_isExported hmem halternate hfile]
  exact List.map_congr_left fun symbol hsymbol => (hbare symbol hsymbol).2.1

lemma moduleCompletions_of_unaliased :
    moduleCompletions snapshot imp = symbols.map Completion.ofSymbol := by
  rw [moduleCompletions, hfile]
  simp only [filter_isExported hmem halternate hfile]

lemma isName_of_unaliased (hname : name ∈ symbols.map (·.name)) :
    isName isWord name.toList = true := by
  obtain ⟨symbol, hsymbol, rfl⟩ := List.mem_map.mp hname
  exact (Import.qualifiedName_of_unaliased (Import.plain_of_mem_scan hmem) halternate hfile symbol
    hsymbol).2.2

/-- Behind the binding only the library has a function: no other import has the binding, and this
one has no dots in its keys. -/
lemma get?_behind_binding
    (hunique : ∀ other ∈ Import.scan snapshot.text, other.binding = imp.binding → other = imp)
    (hname : '.' ∉ name.toList) :
    snapshot.table.get? (imp.binding ++ "." ++ name) =
      (SymbolTable.merge snapshot.library [] []).get? (imp.binding ++ "." ++ name) := by
  have hplain := Import.plain_of_mem_scan hmem
  refine SymbolTable.get?_of_library ?_ ?_
  · intro symbol hsymbol
    exact Symbol.qualifiedName_ne_dotted hsymbol imp.binding name
  · intro resolved hresolved hkey
    obtain ⟨other, hother, rfl⟩ := List.mem_map.mp hresolved
    have hbinding := Import.binding_of_mem_keys (Import.plain_of_mem_scan hother)
      hplain.dot_notMem_binding hname hkey
    rw [hunique other hother hbinding, keys_of_unaliased hmem halternate hfile] at hkey
    exact notMem_of_isName (isName_of_unaliased hmem halternate hfile hkey) (by decide) (by decide)
      (dot_mem_dotted imp.binding name)

lemma exists_entry_of_unaliased (hname : name ∈ symbols.map (·.name)) :
    ∃ entry, snapshot.table.get? name = some entry ∧ entry.location.isSome = true := by
  have hdot : '.' ∉ name.toList :=
    notMem_of_isName (isName_of_unaliased hmem halternate hfile hname) (by decide) (by decide)
  rw [← keys_of_unaliased hmem halternate hfile] at hname
  exact SymbolTable.exists_declared hdot (List.mem_map.mpr ⟨imp, hmem, rfl⟩) hname _

/-- If nothing later declares the name, its entry is that of the last function of the file that has
it. -/
lemma get?_of_isLast (hname : name ∈ symbols.map (·.name)) (hlast : snapshot.IsLast imp name) :
    ∃ symbol, symbols.findRev? (·.name == name) = some symbol ∧
      snapshot.table.get? name = some (.ofSymbol symbol .fileImport) := by
  have hbare := Import.qualifiedName_of_unaliased (Import.plain_of_mem_scan hmem) halternate hfile
  obtain ⟨hdocument, earlier, later, hscan, hlater⟩ := hlast
  have hsome : (symbols.findRev? (·.name == name)).isSome = true := by
    obtain ⟨symbol, hsymbol, hsame⟩ := List.mem_map.mp hname
    rw [List.findRev?_eq_find?_reverse, List.find?_isSome]
    exact ⟨symbol, List.mem_reverse.mpr hsymbol, by simp [hsame]⟩
  obtain ⟨symbol, hsymbol⟩ := Option.isSome_iff_exists.mp hsome
  have hcontribution : (imp.resolve snapshot.sources snapshot.directory).contribution?
      snapshot.library name = some (.ofSymbol symbol .fileImport) := by
    have hsearch : symbols.findRev? (fun other => other.isExported && other.qualifiedName == name) =
        symbols.findRev? (·.name == name) := by
      rw [List.findRev?_eq_find?_reverse, List.findRev?_eq_find?_reverse, ← List.head?_filter,
        ← List.head?_filter]
      refine congrArg List.head? (List.filter_congr fun other hother => ?_)
      obtain ⟨hexported, hqualified, -⟩ := hbare other (List.mem_reverse.mp hother)
      rw [hexported, hqualified, Bool.true_and]
    rw [ResolvedImport.contribution?, hfile]
    simp only [hsearch, hsymbol, Option.map_some]
  refine ⟨symbol, hsymbol, ?_⟩
  rw [Snapshot.table, Snapshot.imports, hscan, List.map_append, List.map_cons]
  refine SymbolTable.get?_of_last ?_ ?_ hcontribution
  · intro other hother
    rw [Symbol.qualifiedName_of_mem_scan (by simp) hother]
    exact hdocument other hother
  · intro resolved hresolved
    obtain ⟨other, hother, rfl⟩ := List.mem_map.mp hresolved
    exact hlater other hother

end Unaliased

/-- **The functions of a file that is imported without an alias are used by their bare names.**
Where no other import has its binding, completion right after the binding and a dot lists the
functions of the file.  Each of them has an entry under its bare name, which signature help and
hover show for the bare name; it is the entry of the function in the file if nothing later declares
the name.  Behind the binding and a dot they show what the library has under the dotted name, and
never the function of the file. -/
theorem unaliased_functions_are_bare (snapshot : Snapshot) {imp : Import}
    (hmem : imp ∈ Import.scan snapshot.text) (halternate : imp.alternate = none)
    (hunique : ∀ other ∈ Import.scan snapshot.text, other.binding = imp.binding → other = imp)
    {path : Path} {symbols : List Symbol}
    (hfile : (imp.resolve snapshot.sources snapshot.directory).resolution = .module path symbols)
    {position : Position} (hcursor : AfterDot snapshot.text imp.binding position) :
    completions? snapshot position = some (symbols.map Completion.ofSymbol) ∧
      ∀ name ∈ symbols.map (·.name),
        (∃ entry, snapshot.table.get? name = some entry ∧ Shows snapshot name entry ∧
          (snapshot.IsLast imp name → ∃ symbol, symbols.findRev? (·.name == name) = some symbol ∧
            entry = .ofSymbol symbol .fileImport)) ∧
        ShowsLibrary snapshot (imp.binding ++ "." ++ name) := by
  have hplain := Import.plain_of_mem_scan hmem
  constructor
  · rw [completions?_of_importBefore? (importBefore?_of_unique hunique hmem hcursor),
      moduleCompletions_of_unaliased hmem halternate hfile]
  intro name hname
  have hword := isName_of_unaliased hmem halternate hfile hname
  constructor
  · obtain ⟨entry, hget, hlocation⟩ := exists_entry_of_unaliased hmem halternate hfile hname
    refine ⟨entry, hget, shows_of_get? hword hget hlocation, fun hlast => ?_⟩
    obtain ⟨symbol, hsymbol, hentry⟩ := get?_of_isLast hmem halternate hfile hname hlast
    rw [hget] at hentry
    exact ⟨symbol, hsymbol, Option.some.inj hentry⟩
  · have hdot : '.' ∉ name.toList := notMem_of_isName hword (by decide) (by decide)
    exact showsLibrary_of_get? hplain.isName_binding
      (get?_behind_binding hmem halternate hfile hunique hdot)

/-- A file under the name of a library module, with a function that the module has too: behind the
binding the function of the library is shown, and for the bare name that of the file. -/
theorem unaliased_functions_are_bare_shadowed :
    let rows : List FunctionRow := [⟨"math", "clamp", ["x", "low", "high"], [], none, "Clamps."⟩]
    let snapshot : Snapshot :=
      { address := ⟨"file", none, .segments ["w", "main.aelys"], none, none⟩
        text := "needs math\nmath.clamp(clamp("
        path := some (.ofText "/w/main.aelys")
        library := ⟨rows.map FunctionRow.function, [], []⟩
        sources := ⟨.empty, [(.ofText "/w/math.ae", "// To a byte\npub fn clamp(v) \x7b\x7d")]⟩ }
    let imp : Import := ⟨"math", none, 0⟩
    let clamp : Symbol :=
      ⟨"clamp", "clamp", "v", "To a byte", .exported, ⟨some (.ofText "/w/math.ae"), 1⟩⟩
    imp ∈ Import.scan snapshot.text ∧ imp.alternate = none ∧
      (∀ other ∈ Import.scan snapshot.text, other.binding = imp.binding → other = imp) ∧
      (imp.resolve snapshot.sources snapshot.directory).resolution =
        .module (.ofText "/w/math.ae") [clamp] ∧
      AfterDot snapshot.text imp.binding ⟨1, 5⟩ ∧
      completions? snapshot ⟨1, 5⟩ = some [Completion.ofSymbol clamp] ∧
      signature? snapshot ⟨1, 11⟩ =
        some ⟨"math.clamp(x, low, high)", "Clamps.",
          [⟨"x", none⟩, ⟨"low", none⟩, ⟨"high", none⟩], 0⟩ ∧
      signature? snapshot ⟨1, 17⟩ = some ⟨"clamp(v)", "To a byte", [⟨"v", none⟩], 0⟩ := by
  intro rows snapshot imp clamp
  have hmem : imp ∈ Import.scan snapshot.text := by decide +kernel
  have hunique :
      ∀ other ∈ Import.scan snapshot.text, other.binding = imp.binding → other = imp := by
    decide +kernel
  have hfile : (imp.resolve snapshot.sources snapshot.directory).resolution =
      .module (.ofText "/w/math.ae") [clamp] := by
    decide +kernel
  have hcursor : AfterDot snapshot.text imp.binding ⟨1, 5⟩ :=
    ⟨[], "clamp(clamp(".toList, by decide +kernel, by decide +kernel, by simp⟩
  have hdotted : AtCall snapshot.text "math.clamp" ⟨1, 11⟩ :=
    ⟨"needs math\n".toList, by decide +kernel, by simp; decide⟩
  have hbare : AtCall snapshot.text "clamp" ⟨1, 17⟩ :=
    ⟨"needs math\nmath.clamp(".toList, by decide +kernel, by simp; decide⟩
  have hlast : snapshot.IsLast imp "clamp" :=
    ⟨by decide +kernel, [], [], by decide +kernel, by simp⟩
  obtain ⟨hitems, hnames⟩ := unaliased_functions_are_bare snapshot hmem rfl hunique hfile hcursor
  obtain ⟨⟨entry, -, hshows, hentry⟩, hlibrary⟩ := hnames "clamp" (by simp [clamp])
  obtain ⟨symbol, hsymbol, rfl⟩ := hentry hlast
  have hclamp : symbol = clamp := by
    have hfound : [clamp].findRev? (·.name == "clamp") = some clamp := by decide +kernel
    exact Option.some.inj (hsymbol.symm.trans hfound)
  have hqualified : imp.binding ++ "." ++ "clamp" = "math.clamp" := by decide +kernel
  rw [hqualified] at hlibrary
  refine ⟨hmem, rfl, hunique, hfile, hcursor, hitems, ?_, ?_⟩
  · refine (hlibrary.signature (by decide +kernel) ⟨1, 11⟩ hdotted).trans ?_
    decide +kernel
  · refine (hshows.signature (by decide +kernel) ⟨1, 17⟩ hbare).trans ?_
    rw [hclamp]
    decide +kernel

/-- Behind the binding signature help and hover know nothing of what completion lists, and for a
name that is not plain signature help does not even know the bare name. -/
theorem unaliased_functions_may_be_unknown :
    let snapshot : Snapshot :=
      { address := ⟨"file", none, .segments ["w", "main.aelys"], none, none⟩
        text := "needs util\nutil.fresh(café("
        path := some (.ofText "/w/main.aelys")
        library := ⟨[], [], []⟩
        sources :=
          ⟨.empty, [(.ofText "/w/util.ae", "pub fn fresh(x) \x7b\x7d\npub fn café(y) \x7b\x7d")]⟩ }
    let imp : Import := ⟨"util", none, 0⟩
    Import.scan snapshot.text = [imp] ∧ AfterDot snapshot.text imp.binding ⟨1, 5⟩ ∧
      (completions? snapshot ⟨1, 5⟩).map (·.map (·.label)) = some ["fresh", "café"] ∧
      AtCall snapshot.text "util.fresh" ⟨1, 11⟩ ∧ signature? snapshot ⟨1, 11⟩ = none ∧
      word? snapshot.text ⟨1, 7⟩ = some "util.fresh" ∧ hover? snapshot ⟨1, 7⟩ = none ∧
      AtCall snapshot.text "café" ⟨1, 16⟩ ∧ signature? snapshot ⟨1, 16⟩ = none := by
  intro snapshot imp
  have hcursor : AfterDot snapshot.text imp.binding ⟨1, 5⟩ :=
    ⟨[], "fresh(café(".toList, by decide +kernel, by decide +kernel, by simp⟩
  have hdotted : AtCall snapshot.text "util.fresh" ⟨1, 11⟩ :=
    ⟨"needs util\n".toList, by decide +kernel, by simp; decide⟩
  have hbare : AtCall snapshot.text "café" ⟨1, 16⟩ :=
    ⟨"needs util\nutil.fresh(".toList, by decide +kernel, by simp; decide⟩
  exact ⟨by decide +kernel, hcursor, by decide +kernel, hdotted, by decide +kernel,
    by decide +kernel, by decide +kernel, hbare, by decide +kernel⟩

end Query

end LanguageServer
