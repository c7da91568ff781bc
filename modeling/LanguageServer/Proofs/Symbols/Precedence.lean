import LanguageServer.Proofs.Search
import LanguageServer.Symbols.Table

/-!
# Which entry a key has

The table of a document is put together from the standard library, the imports and the document
itself, one entry after the other.  This file says what comes out, without following the insertions:

* the entry under a key is the one of the last function of the document that has this name, or else
  the one that the last import contributes that contributes any, or else the one of the library;
* the keys are those of the library, of the imports and of the document, each at the place where it
  was contributed first, whatever replaced its entry later.

Both together are `SymbolTable.merge_precedence`.

A table is observed through `get?` and `keys`.  What one insertion does to the two is said once
(`get?_insert`, `keys_insert`), what a layer does follows by induction over the layer
(`get?_insertAll`, `keys_insertAll`), and the three layers are then one list.
-/

namespace LanguageServer

/-! ## The names of a library -/

namespace Library

/-- No key is found to occur twice exactly when the keys are distinct and none of them is among
those seen before. -/
lemma duplicate?_eq_none_iff (seen keys : List String) :
    duplicate? seen keys = none ↔ keys.Nodup ∧ ∀ key ∈ keys, key ∉ seen := by
  induction keys generalizing seen with
  | nil => simp [duplicate?]
  | cons key keys ih =>
    by_cases hseen : key ∈ seen
    · have hfound : duplicate? seen (key :: keys) = some key := by simp [duplicate?, hseen]
      simp [hfound, hseen]
    · have hstep : duplicate? seen (key :: keys) = duplicate? (key :: seen) keys := by
        simp [duplicate?, hseen]
      rw [hstep, ih, List.nodup_cons]
      constructor
      · rintro ⟨hnodup, hfresh⟩
        refine ⟨⟨fun hmem => hfresh key hmem (by simp), hnodup⟩, ?_⟩
        intro other hother
        rcases List.mem_cons.mp hother with rfl | hmem
        · exact hseen
        · exact fun h => hfresh other hmem (List.mem_cons_of_mem key h)
      · rintro ⟨⟨hkey, hnodup⟩, hfresh⟩
        refine ⟨hnodup, fun other hother => ?_⟩
        rw [List.mem_cons, not_or]
        exact ⟨fun h => hkey (h ▸ hother), hfresh other (List.mem_cons_of_mem key hother)⟩

lemma nodup_names {functions : List FunctionRow} {constants : List ConstantRow}
    {attributes : List Attribute} {library : Library}
    (h : ofTables functions constants attributes = .ok library) :
    (library.functions.map (·.name.text)).Nodup := by
  unfold ofTables at h
  split at h
  · cases h
  · rename_i hnone
    cases h
    have hkeys := ((duplicate?_eq_none_iff [] _).mp hnone).1
    rw [keys, List.append_assoc] at hkeys
    have hfunctions := hkeys.of_append_left
    simpa [Function.comp_def, FunctionRow.function] using hfunctions

end Library

/-- In a list with keys, the new entry is found under its key, and what was there under every other
key. -/
lemma find?_putUnder {α : Type} (entries : List (String × α)) (key other : String) (entry : α) :
    ((putUnder key entry entries).find? (·.1 == other)).map (·.2) =
      if key = other then some entry else (entries.find? (·.1 == other)).map (·.2) := by
  induction entries with
  | nil => by_cases h : key = other <;> simp [putUnder, h]
  | cons first rest ih =>
    obtain ⟨k, e⟩ := first
    rw [putUnder]
    by_cases hk : k = key
    · subst hk
      by_cases h : k = other <;> simp [h]
    · rw [if_neg hk]
      by_cases hother : k = other
      · have hne : key ≠ other := fun h => hk (hother.trans h.symm)
        simp [hother, hne]
      · simpa [hother] using ih

namespace SymbolTable

variable (table : SymbolTable) (key : String) (entry : SymbolEntry)

lemma get?_eq_none_iff : table.get? key = none ↔ key ∉ table.keys := by
  simp only [get?, keys, Option.map_eq_none_iff, List.find?_eq_none, beq_iff_eq, List.mem_map,
    not_exists, not_and]

/-! ## One insertion -/

/-- After an insertion the key has the new entry, and every other key has the entry it had. -/
lemma get?_insert (other : String) :
    (table.insert key entry).get? other = if key = other then some entry else table.get? other :=
  find?_putUnder table.entries key other entry

/-- An insertion adds its key at the end, unless the table has the key already. -/
lemma keys_insert :
    (table.insert key entry).keys =
      if key ∈ table.keys then table.keys else table.keys ++ [key] := by
  obtain ⟨entries⟩ := table
  induction entries with
  | nil => simp [keys, insert, putUnder]
  | cons first rest ih =>
    obtain ⟨k, e⟩ := first
    simp only [keys, insert, putUnder] at ih ⊢
    by_cases hk : k = key
    · simp [hk]
    · have hne : key ≠ k := Ne.symm hk
      rw [if_neg hk, List.map_cons, ih]
      by_cases hmem : key ∈ rest.map (·.1)
      · simp only [hmem, if_true, List.map_cons, List.mem_cons, or_true]
      · simp only [hmem, if_false, List.map_cons, List.mem_cons, hne, or_self, List.cons_append]

lemma nodup_keys_insert (h : table.keys.Nodup) : (table.insert key entry).keys.Nodup := by
  rw [keys_insert]
  split
  · exact h
  · rename_i hfresh
    exact h.append (List.nodup_singleton key) (by simpa using hfresh)

/-! ## A layer -/

/-- The last entry that the layer has for the key. -/
def lastIn? (layer : List (String × SymbolEntry)) : Option SymbolEntry :=
  (layer.findRev? (·.1 == key)).map (·.2)

lemma lastIn?_append (layer above : List (String × SymbolEntry)) :
    lastIn? key (layer ++ above) = (lastIn? key above).or (lastIn? key layer) := by
  simp only [lastIn?, List.findRev?_eq_find?_reverse, List.reverse_append, List.find?_append,
    Option.map_or]

/-- After a layer a key has the last entry of the layer, and the entry that it had if there is
none. -/
lemma get?_insertAll (layer : List (String × SymbolEntry)) :
    (table.insertAll layer).get? key = (lastIn? key layer).or (table.get? key) := by
  induction layer generalizing table with
  | nil => rfl
  | cons first rest ih =>
    obtain ⟨k, e⟩ := first
    have hlast : lastIn? key ((k, e) :: rest) =
        (lastIn? key rest).or (if k = key then some e else none) := by
      rw [← List.singleton_append, lastIn?_append]
      congr 1
      by_cases h : k = key <;> simp [lastIn?, List.findRev?, h]
    have hstep : table.insertAll ((k, e) :: rest) = (table.insert k e).insertAll rest := rfl
    rw [hstep, ih, hlast, get?_insert]
    cases lastIn? key rest <;> by_cases h : k = key <;> simp [h]

/-- A layer adds the keys that the table did not have, each once and in the order in which the layer
has them first. -/
lemma keys_insertAll (layer : List (String × SymbolEntry)) :
    (table.insertAll layer).keys =
      table.keys ++ ((layer.map (·.1)).removeAll table.keys).eraseDups := by
  induction layer generalizing table with
  | nil => simp [insertAll]
  | cons first rest ih =>
    obtain ⟨k, e⟩ := first
    have hstep : table.insertAll ((k, e) :: rest) = (table.insert k e).insertAll rest := rfl
    rw [hstep, ih, keys_insert, List.map_cons, List.cons_removeAll]
    by_cases hk : k ∈ table.keys
    · simp [hk]
    · have hrest : (rest.map (·.1)).removeAll (table.keys ++ [k]) =
          ((rest.map (·.1)).removeAll table.keys).filter (!· == k) := by
        simp only [List.removeAll, List.filter_filter]
        refine List.filter_congr fun other _ => ?_
        simp [Bool.and_comm, beq_eq_decide]
      rw [if_neg hk, if_pos (by simpa using hk), List.eraseDups_cons, hrest, List.append_assoc,
        List.singleton_append]

lemma nodup_keys_insertAll (layer : List (String × SymbolEntry)) (h : table.keys.Nodup) :
    (table.insertAll layer).keys.Nodup := by
  induction layer generalizing table with
  | nil => exact h
  | cons first rest ih => exact ih _ (table.nodup_keys_insert first.1 first.2 h)

end SymbolTable

/-! ## What the layers contribute -/

namespace ResolvedImport

/-- The key under which an imported module of the standard library offers a function: the other name
of the import, or else the module, before the last segment of the name. -/
def libraryKey (imported : Import) (f : LibraryFunction) : String :=
  imported.alternate.getD imported.stdModule ++ "." ++ f.name.last

/-- The entry that an import contributes under the key.  A module of the standard library
contributes its functions under the binding, a file the functions that it exports, and of several
with this key the last counts.  An import that was not found contributes nothing. -/
def contribution? (library : Library) (key : String) (resolved : ResolvedImport) :
    Option SymbolEntry :=
  let imported := resolved.imported
  match resolved.resolution with
  | .standard =>
    ((library.moduleFunctions imported.stdModule).findRev? fun f =>
        libraryKey imported f == key).map fun f =>
      let label := Text.replaceFirst imported.stdModule.toList
        (imported.alternate.getD imported.stdModule).toList f.label.toList
      .ofLibrary f (String.ofList label) .libraryImport
  | .module _ symbols =>
    (symbols.findRev? fun symbol => symbol.isExported && symbol.qualifiedName == key).map
      (.ofSymbol · .fileImport)
  | .missing => none

/-- The keys that an import contributes, in order. -/
def keys (library : Library) (resolved : ResolvedImport) : List String :=
  match resolved.resolution with
  | .standard =>
    (library.moduleFunctions resolved.imported.stdModule).map (libraryKey resolved.imported)
  | .module _ symbols => (symbols.filter (·.isExported)).map (·.qualifiedName)
  | .missing => []

end ResolvedImport

namespace SymbolTable

variable (library : Library) (key : String)

lemma lastIn?_map {α : Type} (keyOf : α → String) (entryOf : α → SymbolEntry) (xs : List α) :
    lastIn? key (xs.map fun x => (keyOf x, entryOf x)) =
      (xs.findRev? (keyOf · == key)).map entryOf := by
  rw [lastIn?, List.findRev?_eq_find?_reverse, List.findRev?_eq_find?_reverse, ← List.map_reverse,
    List.find?_map, Option.map_map]
  rfl

lemma lastIn?_importLayer (resolved : ResolvedImport) :
    lastIn? key (importLayer library resolved) = resolved.contribution? library key := by
  obtain ⟨imported, resolution⟩ := resolved
  cases resolution with
  | standard => exact lastIn?_map key _ _ _
  | module path symbols =>
    simp only [importLayer, ResolvedImport.contribution?]
    rw [lastIn?_map, List.findRev?_eq_find?_reverse, List.findRev?_eq_find?_reverse,
      ← List.filter_reverse, List.find?_filter]
    simp only [Bool.decide_and, Bool.decide_eq_true]
  | missing => rfl

lemma lastIn?_importLayers (imports : List ResolvedImport) :
    lastIn? key (imports.map (importLayer library)).flatten =
      imports.findSomeRev? (·.contribution? library key) := by
  induction imports with
  | nil => rfl
  | cons resolved imports ih =>
    rw [List.map_cons, List.flatten_cons, lastIn?_append, ih, lastIn?_importLayer,
      List.findSomeRev?]
    cases imports.findSomeRev? (·.contribution? library key) <;> rfl

lemma keys_importLayer (resolved : ResolvedImport) :
    (importLayer library resolved).map (·.1) = resolved.keys library := by
  obtain ⟨imported, resolution⟩ := resolved
  cases resolution with
  | standard => exact List.map_map
  | module path symbols => exact List.map_map
  | missing => rfl

lemma lastIn?_documentLayer (symbols : List Symbol) :
    lastIn? key (documentLayer symbols) =
      (symbols.findRev? (·.qualifiedName == key)).map (SymbolEntry.ofSymbol · .document) :=
  lastIn?_map key _ _ _

/-- The three layers of a merged table, the topmost first. -/
lemma get?_merge (imports : List ResolvedImport) (symbols : List Symbol) :
    (merge library imports symbols).get? key =
      (lastIn? key (documentLayer symbols)).or
        ((imports.findSomeRev? (·.contribution? library key)).or
          (lastIn? key (libraryLayer library))) := by
  have hempty : empty.get? key = none := rfl
  rw [merge, get?_insertAll, lastIn?_append, lastIn?_append, lastIn?_importLayers, hempty,
    Option.or_none]

/-- Everything that is contributed to the table of a document, in order, by its key. -/
def contributedKeys (imports : List ResolvedImport) (symbols : List Symbol) : List String :=
  library.functions.map (·.name.text) ++ (imports.map (·.keys library)).flatten ++
    symbols.map (·.qualifiedName)

lemma keys_merge (imports : List ResolvedImport) (symbols : List Symbol) :
    (merge library imports symbols).keys =
      (contributedKeys library imports symbols).eraseDups := by
  have hempty : empty.keys = [] := rfl
  rw [merge, keys_insertAll, hempty, List.removeAll_nil, List.nil_append, contributedKeys]
  simp only [List.map_append, List.map_flatten, List.map_map, libraryLayer, documentLayer,
    Function.comp_def, keys_importLayer]

lemma nodup_keys_merge (imports : List ResolvedImport) (symbols : List Symbol) :
    (merge library imports symbols).keys.Nodup :=
  nodup_keys_insertAll _ _ List.nodup_nil

/-- **The merged table implements the precedence of its layers.**  Under a key stands the entry of
the last function of the document that has this name; if there is none, the entry of the last import
that contributes one; and otherwise that of the library.  No key occurs twice, and the keys stand in
the order in which they are contributed first by the library, the imports and the document. -/
theorem merge_precedence {functions : List FunctionRow} {constants : List ConstantRow}
    {attributes : List Attribute} {library : Library}
    (hlibrary : Library.ofTables functions constants attributes = .ok library)
    (imports : List ResolvedImport) (symbols : List Symbol) :
    let table := merge library imports symbols
    (∀ key, table.get? key =
      ((symbols.findRev? (·.qualifiedName == key)).map (SymbolEntry.ofSymbol · .document)).or
        ((imports.findSomeRev? (·.contribution? library key)).or
          ((library.get? key).map fun f => .ofLibrary f f.label .library))) ∧
      table.keys.Nodup ∧
      table.keys = (contributedKeys library imports symbols).eraseDups := by
  intro table
  refine ⟨fun key => ?_, nodup_keys_merge _ _ _, keys_merge _ _ _⟩
  have hnames := Library.nodup_names hlibrary
  have hentry : lastIn? key (libraryLayer library) =
      (library.get? key).map fun f => .ofLibrary f f.label .library := by
    rw [libraryLayer, lastIn?_map, findRev?_eq_find?_of_nodup hnames]
    rfl
  rw [get?_merge, lastIn?_documentLayer, hentry]

/-- A module of the library, and after it a file under the same name that declares a function twice
and hides another one: the second declaration counts, and the hidden function replaces nothing. -/
theorem merge_precedence_shadowed :
    let rows : List FunctionRow :=
      [⟨"io", "print", ["value"], [], none, "Prints."⟩, ⟨"io", "flush", [], [], none, "Flushes."⟩]
    let library : Library := ⟨rows.map FunctionRow.function, [], []⟩
    let symbol (name : String) (visibility : Visibility) (line : Nat) : Symbol :=
      ⟨name, "io." ++ name, "", "", visibility, ⟨some ⟨[]⟩, line⟩⟩
    let imports : List ResolvedImport :=
      [⟨⟨"std.io", none, 0⟩, .standard⟩,
        ⟨⟨"util", some "io", 1⟩, .module ⟨[]⟩
          [symbol "print" .exported 0, symbol "flush" .internal 1, symbol "print" .exported 2]⟩]
    let main : Symbol := ⟨"main", "main", "", "", .internal, ⟨none, 3⟩⟩
    let table := merge library imports [main]
    Library.ofTables rows [] [] = .ok library ∧
      table.get? "io.print" = some (.ofSymbol (symbol "print" .exported 2) .fileImport) ∧
      (table.get? "io.flush").map (·.origin) = some .libraryImport ∧
      table.keys = ["io.print", "io.flush", "main"] := by
  intro rows library symbol imports main table
  have hlibrary : Library.ofTables rows [] [] = .ok library := by rfl
  obtain ⟨hget, -, hkeys⟩ := merge_precedence hlibrary imports [main]
  refine ⟨hlibrary, (hget "io.print").trans ?_, ?_, hkeys.trans ?_⟩
  · decide +kernel
  · rw [hget "io.flush"]
    decide +kernel
  · decide +kernel

end SymbolTable

end LanguageServer
