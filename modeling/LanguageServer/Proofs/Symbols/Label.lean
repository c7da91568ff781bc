import LanguageServer.Proofs.Library.Module
import LanguageServer.Proofs.Symbols.Precedence

/-!
# Labels of entries

The label of an entry is shown in place of what is written at a call, so it has to begin with the
key that the entry stands under.  The layers of a table make their labels in different ways.  A
function of the library is labelled when the library is built, a declared function from its
declaration, and for an imported module of the library the name of the module is looked for in the
label and exchanged for the binding.

The first occurrence of the module in the label is always the one in front of the name, because the
name begins with it (`SymbolEntry.labelled_libraryImport`); where else it occurs, in the name or in
the parameters, makes no difference.  Under every key of a merged table there is thus an entry that
is labelled by the key (`SymbolTable.label_matches_key`).
-/

namespace LanguageServer

open Text

/-! ## Labels -/

/-- The label of the entry is the key with a list of parameters in parentheses.  For a function of
the library the list is made from its parameters, for a declared function its parameters are read
from the list. -/
def SymbolEntry.Labelled (key : String) (entry : SymbolEntry) : Prop :=
  ∃ list, entry.label = key ++ "(" ++ list ++ ")" ∧
    match entry.origin with
    | .library | .libraryImport => list = ", ".intercalate (entry.parameters.map Parameter.label)
    | .fileImport | .document => entry.parameters.map Parameter.label = Parameter.split list

namespace Library

variable {functions : List FunctionRow} {constants : List ConstantRow}
  {attributes : List Attribute} {library : Library}

lemma label_of_mem (h : ofTables functions constants attributes = .ok library) {f : LibraryFunction}
    (hf : f ∈ library.functions) :
    f.label = f.name.text ++ "(" ++ ", ".intercalate (f.parameters.map Parameter.label) ++ ")" := by
  rw [functions_ofTables h] at hf
  obtain ⟨row, -, rfl⟩ := List.mem_map.mp hf
  have hlabels : row.function.parameters.map Parameter.label = row.parameters := by
    simp only [FunctionRow.function, List.map_map, Function.comp_def]
    exact List.zipIdx_map_fst 0 row.parameters
  rw [hlabels]
  rfl

end Library

namespace SymbolEntry

variable {functions : List FunctionRow} {constants : List ConstantRow}
  {attributes : List Attribute} {library : Library} {f : LibraryFunction}

lemma labelled_library (h : Library.ofTables functions constants attributes = .ok library)
    (hf : f ∈ library.functions) : (ofLibrary f f.label .library).Labelled f.name.text :=
  ⟨_, Library.label_of_mem h hf, rfl⟩

/-- In the label of a function of the library the module is exchanged for another name where it
stands before the name of the function, whatever the module, the name and the parameters are. -/
lemma labelled_libraryImport (h : Library.ofTables functions constants attributes = .ok library)
    (hf : f ∈ library.functions) (binding : String) :
    (ofLibrary f (String.ofList
        (replaceFirst f.name.module.toList binding.toList f.label.toList)) .libraryImport).Labelled
      (binding ++ "." ++ f.name.last) := by
  refine ⟨", ".intercalate (f.parameters.map Parameter.label), ?_, rfl⟩
  have hlabel : f.label.toList = f.name.module.toList ++
      ("." ++ f.name.last ++ "(" ++ ", ".intercalate (f.parameters.map Parameter.label) ++
        ")").toList := by
    rw [Library.label_of_mem h hf, Library.text_of_mem h hf]
    simp
  rw [hlabel, ofLibrary, replaceFirst_append, ← String.toList_inj]
  simp

lemma labelled_declared (symbol : Symbol) {origin : Origin}
    (horigin : origin = .fileImport ∨ origin = .document) :
    (ofSymbol symbol origin).Labelled symbol.qualifiedName := by
  have hlabels : (ofSymbol symbol origin).parameters.map Parameter.label =
      Parameter.split symbol.rawParameters := by
    rw [ofSymbol, List.map_map]
    exact List.map_id _
  refine ⟨symbol.rawParameters, rfl, ?_⟩
  rcases horigin with rfl | rfl <;> exact hlabels

end SymbolEntry

/-! ## Tables -/

namespace SymbolTable

variable {key : String} {entry : SymbolEntry}

lemma mem_of_lastIn? {layer : List (String × SymbolEntry)} (h : lastIn? key layer = some entry) :
    (key, entry) ∈ layer := by
  rw [lastIn?, List.findRev?_eq_find?_reverse] at h
  obtain ⟨⟨other, found⟩, hfound, rfl⟩ := Option.map_eq_some_iff.mp h
  have hkey : other = key := by simpa using List.find?_some hfound
  rw [← hkey]
  exact List.mem_reverse.mp (List.mem_of_find?_eq_some hfound)

/-- What holds of the entries of a table and of those of a layer holds when the layer has been put
into the table. -/
lemma forall_get?_insertAll {motive : String → SymbolEntry → Prop} {table : SymbolTable}
    {layer : List (String × SymbolEntry)}
    (htable : ∀ key entry, table.get? key = some entry → motive key entry)
    (hlayer : ∀ key entry, (key, entry) ∈ layer → motive key entry) :
    ∀ key entry, (table.insertAll layer).get? key = some entry → motive key entry := by
  intro key entry h
  rw [get?_insertAll] at h
  rcases Option.or_eq_some_iff.mp h with hlast | ⟨-, hbefore⟩
  · exact hlayer key entry (mem_of_lastIn? hlast)
  · exact htable key entry hbefore

variable {functions : List FunctionRow} {constants : List ConstantRow}
  {attributes : List Attribute} {library : Library}

lemma labelled_importLayer (h : Library.ofTables functions constants attributes = .ok library)
    (resolved : ResolvedImport) :
    ∀ key entry, (key, entry) ∈ importLayer library resolved → entry.Labelled key := by
  intro key entry hmem
  obtain ⟨imported, resolution⟩ := resolved
  cases resolution with
  | standard =>
    obtain ⟨f, hf, heq⟩ := List.mem_map.mp hmem
    obtain ⟨hf, hmodule⟩ := Library.mem_moduleFunctions_iff.mp hf
    obtain ⟨rfl, rfl⟩ := Prod.mk.inj heq
    rw [← hmodule]
    exact SymbolEntry.labelled_libraryImport h hf _
  | module path symbols =>
    obtain ⟨symbol, -, heq⟩ := List.mem_map.mp hmem
    obtain ⟨rfl, rfl⟩ := Prod.mk.inj heq
    exact SymbolEntry.labelled_declared symbol (Or.inl rfl)
  | missing => cases hmem

lemma labelled_of_get?_merge (h : Library.ofTables functions constants attributes = .ok library)
    (imports : List ResolvedImport) (symbols : List Symbol) :
    ∀ key entry, (merge library imports symbols).get? key = some entry → entry.Labelled key := by
  refine forall_get?_insertAll (fun key entry hempty => by cases hempty) ?_
  intro key entry hmem
  rcases List.mem_append.mp hmem with hmem | hmem
  · rcases List.mem_append.mp hmem with hmem | hmem
    · obtain ⟨f, hf, heq⟩ := List.mem_map.mp hmem
      obtain ⟨rfl, rfl⟩ := Prod.mk.inj heq
      exact SymbolEntry.labelled_library h hf
    · obtain ⟨layer, hlayer, hmem⟩ := List.mem_flatten.mp hmem
      obtain ⟨resolved, -, rfl⟩ := List.mem_map.mp hlayer
      exact labelled_importLayer h resolved key entry hmem
  · obtain ⟨symbol, -, heq⟩ := List.mem_map.mp hmem
    obtain ⟨rfl, rfl⟩ := Prod.mk.inj heq
    exact SymbolEntry.labelled_declared symbol (Or.inr rfl)

/-- **Every label matches its key.**  Whatever the tables of the library, the imports with their
bindings and the functions of the document are, under every key of the merged table there is an
entry whose label is the key with a list of parameters in parentheses.  For entries of the library
and of its imported modules the list consists of the labels of the parameters with commas between
them; for declared functions it is the list as written, and the parameters are read from it. -/
theorem label_matches_key (hlibrary : Library.ofTables functions constants attributes = .ok library)
    (imports : List ResolvedImport) (symbols : List Symbol) :
    ∀ key ∈ (merge library imports symbols).keys,
      ∃ entry, (merge library imports symbols).get? key = some entry ∧ entry.Labelled key := by
  intro key hkey
  have hsome : (merge library imports symbols).get? key ≠ none :=
    fun hnone => (get?_eq_none_iff _ _).mp hnone hkey
  obtain ⟨entry, hentry⟩ := Option.ne_none_iff_exists'.mp hsome
  exact ⟨entry, hentry, labelled_of_get?_merge hlibrary imports symbols key entry hentry⟩

/-- A nested module whose name occurs again in the name of a function and in its parameters, under
an alias that is the name of another module. -/
theorem label_matches_key_nested :
    let rows : List FunctionRow :=
      [⟨"io", "print", ["io"], [], none, "Prints."⟩,
        ⟨"geo.io", "geo.io", ["geo.io", "io"], [], none, "Reads."⟩]
    let library : Library := ⟨rows.map FunctionRow.function, [], []⟩
    let imports : List ResolvedImport :=
      [⟨⟨"std.geo.io.geo", some "io", 0⟩, .standard⟩, ⟨⟨"std.io", some "i", 1⟩, .standard⟩]
    let table := merge library imports []
    Library.ofTables rows [] [] = .ok library ∧
      "io.io" ∈ table.keys ∧ "i.print" ∈ table.keys ∧
      (∃ entry, table.get? "io.io" = some entry ∧ entry.label = "io.io(geo.io, io)" ∧
        entry.Labelled "io.io") ∧
      ∃ entry, table.get? "i.print" = some entry ∧ entry.label = "i.print(io)" ∧
        entry.Labelled "i.print" := by
  intro rows library imports table
  have hlibrary : Library.ofTables rows [] [] = .ok library := by rfl
  have hnested : "io.io" ∈ table.keys := by decide +kernel
  have hplain : "i.print" ∈ table.keys := by decide +kernel
  obtain ⟨first, hfirst, hlabelled⟩ := label_matches_key hlibrary imports [] "io.io" hnested
  obtain ⟨second, hsecond, hlabelled'⟩ := label_matches_key hlibrary imports [] "i.print" hplain
  have hlabel : (table.get? "io.io").map (·.label) = some "io.io(geo.io, io)" := by decide +kernel
  have hlabel' : (table.get? "i.print").map (·.label) = some "i.print(io)" := by decide +kernel
  rw [hfirst, Option.map_some, Option.some.injEq] at hlabel
  rw [hsecond, Option.map_some, Option.some.injEq] at hlabel'
  exact ⟨hlibrary, hnested, hplain, ⟨first, hfirst, hlabel, hlabelled⟩,
    second, hsecond, hlabel', hlabelled'⟩

end SymbolTable

end LanguageServer
