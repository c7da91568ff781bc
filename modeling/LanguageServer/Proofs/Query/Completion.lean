import LanguageServer.Proofs.Library.Module
import LanguageServer.Proofs.Symbols.Origin
import LanguageServer.Proofs.Text.Measure
import LanguageServer.Query.Completion

/-!
# Completion and the table offer the same names

After a binding and a dot completion lists the module that the binding refers to.  Hover and
signature help look the dotted name up in the table of the document, where the functions of all
imports, of the library and of the document itself stand together.  This file shows that the two
agree: where bindings are different, the functions that completion lists after a binding are exactly
the names that have an entry of an import under the binding and a dot
(`Query.completion_agrees_with_table`).

Both sides are compared with the names that the import offers (`ResolvedImport.offered`).

* Completion finds the binding before the dot, and by it the import, because no other import has the
  binding (`Query.completions?_of_afterDot`).
* A dotted key can be contributed by no other import: an import contributes keys without a dot, keys
  with two dots, or keys that begin with its own binding (`Import.binding_of_mem_keys`).  Functions
  of the document have no dot in their names.
-/

namespace LanguageServer

open Text Source

/-! ## Completion after a name and a dot -/

namespace Query

/-- The text of the line before the position. -/
def lineBefore (text : String) (position : Position) : List Char :=
  let line := (lines text.toList).getD position.line []
  line.take (columnChars position.character line)

/-- The position is right after the name and a dot, and no part of a name stands before the name. -/
def AfterDot (text name : String) (position : Position) : Prop :=
  ∃ before after,
    (lines text.toList)[position.line]? = some (before ++ name.toList ++ '.' :: after) ∧
    position.character = unitLength (before ++ name.toList ++ ['.']) ∧
    ∀ c ∈ before.getLast?, isNamePart c = false

lemma bindingBefore?_name {before name : List Char} (hname : isName isNamePart name = true)
    (hbefore : ∀ c ∈ before.getLast?, isNamePart c = false) :
    bindingBefore? (before ++ name ++ ['.']) = some name := by
  obtain ⟨c, cs, rfl⟩ : ∃ c cs, name = c :: cs := by
    cases name with
    | nil => cases hname
    | cons c cs => exact ⟨c, cs, rfl⟩
  have htake := takeWhile_reverse_append (fun d hd => isNamePart_of_mem hname hd) hbefore
  have hreverse : (before ++ c :: cs ++ ['.']).reverse = '.' :: (before ++ c :: cs).reverse := by
    simp
  rw [isName, Bool.and_eq_true] at hname
  rw [bindingBefore?, hreverse]
  simp only [htake, List.reverse_reverse]
  rw [List.dropWhile_cons_of_neg (by simp [hname.1]), if_neg (by simp)]

/-- The import that a name and a dot before the position refer to. -/
def importBefore? (snapshot : Snapshot) (position : Position) : Option Import :=
  (bindingBefore? (lineBefore snapshot.text position)).bind fun binding =>
    Import.find? (Import.scan snapshot.text) (String.ofList binding)

lemma getLast?_of_bindingBefore? {before name : List Char} (h : bindingBefore? before = some name) :
    before.getLast? = some '.' := by
  unfold bindingBefore? at h
  split at h
  · rename_i rest hrest
    rw [List.getLast?_eq_head?_reverse, hrest, List.head?_cons]
  · cases h

lemma completions?_of_importBefore? {snapshot : Snapshot} {position : Position} {imp : Import}
    (h : importBefore? snapshot position = some imp) :
    completions? snapshot position = some (moduleCompletions snapshot imp) := by
  obtain ⟨binding, hbinding, hfind⟩ := Option.bind_eq_some_iff.mp h
  have hlast : (lineBefore snapshot.text position).getLast? ≠ some '@' := by
    rw [getLast?_of_bindingBefore? hbinding]
    decide
  change completionsAfter? snapshot (lineBefore snapshot.text position) = _
  rw [completionsAfter?, if_neg hlast, hbinding, Option.bind_eq_bind, Option.bind_some, hfind]
  rfl

lemma mem_scan_of_importBefore? {snapshot : Snapshot} {position : Position} {imp : Import}
    (h : importBefore? snapshot position = some imp) : imp ∈ Import.scan snapshot.text := by
  obtain ⟨binding, -, hfind⟩ := Option.bind_eq_some_iff.mp h
  exact List.mem_of_find?_eq_some hfind

lemma lineBefore_of_afterDot {text name : String} {position : Position}
    (h : AfterDot text name position) :
    ∃ before, lineBefore text position = before ++ name.toList ++ ['.'] ∧
      ∀ c ∈ before.getLast?, isNamePart c = false := by
  obtain ⟨before, after, hline, hcolumn, hbefore⟩ := h
  refine ⟨before, ?_, hbefore⟩
  have hcut := take_columnChars_unitLength (before ++ name.toList ++ ['.']) after
  rw [lineBefore, List.getD_eq_getElem?_getD, hline, Option.getD_some, hcolumn]
  simpa using hcut

/-- Right after its binding and a dot an import is found, if no other import has the binding. -/
lemma importBefore?_of_unique {snapshot : Snapshot} {position : Position} {imp : Import}
    (hunique : ∀ other ∈ Import.scan snapshot.text, other.binding = imp.binding → other = imp)
    (hmem : imp ∈ Import.scan snapshot.text)
    (hcursor : AfterDot snapshot.text imp.binding position) :
    importBefore? snapshot position = some imp := by
  obtain ⟨before, hline, hbefore⟩ := lineBefore_of_afterDot hcursor
  have hname := (Import.plain_of_mem_scan hmem).isName_binding
  have hfound : (Import.find? (Import.scan snapshot.text) imp.binding).isSome = true := by
    rw [Import.find?, List.find?_isSome]
    exact ⟨imp, hmem, by simp⟩
  obtain ⟨other, hother⟩ := Option.isSome_iff_exists.mp hfound
  have hbinding : other.binding = imp.binding := by simpa using List.find?_some hother
  rw [importBefore?, hline, bindingBefore?_name hname hbefore, Option.bind_some,
    String.ofList_toList, hother, hunique other (List.mem_of_find?_eq_some hother) hbinding]

lemma importBefore?_of_afterDot {snapshot : Snapshot} {position : Position} {imp : Import}
    (hdistinct : ((Import.scan snapshot.text).map Import.binding).Nodup)
    (hmem : imp ∈ Import.scan snapshot.text)
    (hcursor : AfterDot snapshot.text imp.binding position) :
    importBefore? snapshot position = some imp :=
  importBefore?_of_unique (fun _ hother => List.inj_on_of_nodup_map hdistinct hother hmem) hmem
    hcursor

end Query

/-! ## The names that an import offers -/

/-- The names of the functions that an import offers, without its binding. -/
def ResolvedImport.offered (library : Library) (resolved : ResolvedImport) : List String :=
  match resolved.resolution with
  | .standard => (library.moduleFunctions resolved.imported.stdModule).map (·.name.last)
  | .module _ symbols => (symbols.filter (·.isExported)).map (·.name)
  | .missing => []

/-- The functions that completion lists are those that the import offers. -/
lemma Query.label_iff_mem_offered (snapshot : Snapshot) (imp : Import) (name : String) :
    (∃ item ∈ moduleCompletions snapshot imp,
        (item.kind = .function ∨ item.kind = .method) ∧ item.label = name) ↔
      name ∈ (imp.resolve snapshot.sources snapshot.directory).offered snapshot.library := by
  have himported : (imp.resolve snapshot.sources snapshot.directory).imported = imp := rfl
  unfold moduleCompletions ResolvedImport.offered
  rw [himported]
  cases (imp.resolve snapshot.sources snapshot.directory).resolution with
  | standard =>
    simp only [List.mem_append, List.mem_map]
    constructor
    · rintro ⟨item, ⟨f, hf, rfl⟩ | ⟨c, -, rfl⟩, hkind, hlabel⟩
      · exact ⟨f, hf, hlabel⟩
      · simp [Completion.ofConstant] at hkind
    · rintro ⟨f, hf, hname⟩
      exact ⟨Completion.ofFunction f, Or.inl ⟨f, hf, rfl⟩, Or.inl rfl, hname⟩
  | module path symbols =>
    simp only [List.mem_map]
    constructor
    · rintro ⟨item, ⟨symbol, hsymbol, rfl⟩, -, hlabel⟩
      exact ⟨symbol, hsymbol, hlabel⟩
    · rintro ⟨symbol, hsymbol, hname⟩
      exact ⟨Completion.ofSymbol symbol, ⟨symbol, hsymbol, rfl⟩, Or.inr rfl, hname⟩
  | missing => simp

namespace Import

variable {imp : Import} {sources : Sources} {directory : Option Path} {library : Library}

/-- Every function of the import is written behind its binding: the import has an alias, or it is of
the standard library and its path has one more segment. -/
def Qualifies (imp : Import) : Prop :=
  imp.alternate.isSome = true ∨ imp.isStandard = true ∧ imp.segments.length = 2

lemma dot_notMem_of_mem_offered (hplain : imp.Plain) {name : String}
    (h : name ∈ (imp.resolve sources directory).offered library) : '.' ∉ name.toList := by
  unfold ResolvedImport.offered at h
  split at h
  · obtain ⟨f, -, rfl⟩ := List.mem_map.mp h
    exact f.name.dot_notMem_last
  · rename_i path symbols hresolution
    obtain ⟨-, _, content, -, -, -, rfl⟩ := file_of_resolve hresolution
    obtain ⟨symbol, hsymbol, rfl⟩ := List.mem_map.mp h
    exact (provides_of_mem_symbolsOf hplain (List.mem_filter.mp hsymbol).1).dot_notMem
  · cases h

lemma keys_eq_map_offered (hplain : imp.Plain) (h : imp.Qualifies) :
    (imp.resolve sources directory).keys library =
      ((imp.resolve sources directory).offered library).map (imp.binding ++ "." ++ ·) := by
  have himported : (imp.resolve sources directory).imported = imp := rfl
  unfold ResolvedImport.keys ResolvedImport.offered
  rw [himported]
  cases hresolution : (imp.resolve sources directory).resolution with
  | standard =>
    have hstandard := resolve_standard_iff.mp hresolution
    have hbinding : imp.alternate.getD imp.stdModule = imp.binding := by
      cases halternate : imp.alternate with
      | some name => rw [binding, halternate, Option.getD_some, Option.getD_some]
      | none =>
        rw [Option.getD_none]
        rcases h with hsome | ⟨-, hlength⟩
        · simp [halternate] at hsome
        · exact stdModule_eq_binding hstandard hlength halternate
    simp only [List.map_map]
    refine List.map_congr_left fun f _ => ?_
    simp [ResolvedImport.libraryKey, hbinding]
  | module path symbols =>
    obtain ⟨hstandard, _, content, -, -, -, rfl⟩ := file_of_resolve hresolution
    obtain ⟨name, halternate⟩ : ∃ name, imp.alternate = some name := by
      rcases h with hsome | ⟨hstandard', -⟩
      · exact Option.isSome_iff_exists.mp hsome
      · rw [hstandard] at hstandard'
        cases hstandard'
    simp only [List.map_map]
    refine List.map_congr_left fun symbol hsymbol => ?_
    have hprovides := provides_of_mem_symbolsOf hplain (List.mem_filter.mp hsymbol).1
    simp [hprovides.qualifiedName, qualified, binding, halternate]
  | missing => rfl

/-- A key with one dot is contributed only by an import whose binding stands before the dot. -/
lemma binding_of_mem_keys (hplain : imp.Plain) {lead name : String} (hlead : '.' ∉ lead.toList)
    (hname : '.' ∉ name.toList)
    (h : lead ++ "." ++ name ∈ (imp.resolve sources directory).keys library) :
    imp.binding = lead := by
  unfold ResolvedImport.keys at h
  split at h
  · rename_i hresolution
    obtain ⟨f, -, hkey⟩ := List.mem_map.mp h
    obtain ⟨hqualifier, -⟩ := dotted_inj hkey f.name.dot_notMem_last hname
    have himported : (imp.resolve sources directory).imported = imp := rfl
    rw [himported] at hqualifier
    cases halternate : imp.alternate with
    | some qualifier => simpa [binding, halternate] using hqualifier
    | none =>
      rw [halternate, Option.getD_none] at hqualifier
      rw [← hqualifier] at hlead ⊢
      exact binding_eq_of_stdModule (resolve_standard_iff.mp hresolution) hlead halternate
  · rename_i path symbols hresolution
    obtain ⟨-, _, content, -, -, -, rfl⟩ := file_of_resolve hresolution
    obtain ⟨symbol, hsymbol, hkey⟩ := List.mem_map.mp h
    have hprovides := provides_of_mem_symbolsOf hplain (List.mem_filter.mp hsymbol).1
    rw [hprovides.qualifiedName, qualified] at hkey
    cases halternate : imp.alternate with
    | some qualifier =>
      rw [halternate] at hkey
      obtain ⟨hqualifier, -⟩ := dotted_inj hkey hprovides.dot_notMem hname
      rw [binding, halternate, Option.getD_some, hqualifier]
    | none =>
      -- Without an alias the key would be a bare name, which has no dot.
      rw [halternate, Option.map_none, Option.getD_none] at hkey
      have hbare := hprovides.dot_notMem
      rw [hkey] at hbare
      exact absurd (dot_mem_dotted lead name) hbare
  · cases h

end Import

/-! ## Agreement -/

/-- **Completion and the table agree on what a binding offers.**  Where all imports of a document
have different bindings, completion right after a binding and a dot lists, as functions, exactly the
names without a dot that have an entry of an import in the table under the binding, a dot and the
name. -/
theorem Query.completion_agrees_with_table (snapshot : Snapshot)
    (hdistinct : ((Import.scan snapshot.text).map Import.binding).Nodup) {imp : Import}
    (hmem : imp ∈ Import.scan snapshot.text) (hqualifies : imp.Qualifies) {position : Position}
    (hcursor : AfterDot snapshot.text imp.binding position) :
    ∃ items, completions? snapshot position = some items ∧
      ∀ name, (∃ item ∈ items, (item.kind = .function ∨ item.kind = .method) ∧ item.label = name) ↔
        '.' ∉ name.toList ∧
          ∃ entry, snapshot.table.get? (imp.binding ++ "." ++ name) = some entry ∧
            (entry.origin = .libraryImport ∨ entry.origin = .fileImport) := by
  have hplain := Import.plain_of_mem_scan hmem
  have hdot := hplain.dot_notMem_binding
  refine ⟨moduleCompletions snapshot imp,
    completions?_of_importBefore? (importBefore?_of_afterDot hdistinct hmem hcursor), ?_⟩
  intro name
  have hsymbols : ∀ symbol ∈ Symbol.scan snapshot.text none .current,
      symbol.qualifiedName ≠ imp.binding ++ "." ++ name := by
    intro symbol hsymbol hkey
    have hname : symbol.qualifiedName = symbol.name :=
      Symbol.qualifiedName_of_mem_scan (by simp) hsymbol
    have hbare := Symbol.dot_notMem_of_mem_scan hsymbol
    rw [← hname, hkey] at hbare
    exact hbare (dot_mem_dotted imp.binding name)
  rw [label_iff_mem_offered, Snapshot.table, SymbolTable.imported_iff hsymbols]
  constructor
  · intro hoffered
    refine ⟨Import.dot_notMem_of_mem_offered hplain hoffered, ?_⟩
    refine ⟨_, List.mem_map.mpr ⟨imp, hmem, rfl⟩, ?_⟩
    rw [Import.keys_eq_map_offered hplain hqualifies]
    exact List.mem_map.mpr ⟨name, hoffered, rfl⟩
  · rintro ⟨hname, resolved, hresolved, hkey⟩
    obtain ⟨other, hother, rfl⟩ := List.mem_map.mp hresolved
    have hbinding := Import.binding_of_mem_keys (Import.plain_of_mem_scan hother) hdot hname hkey
    have hsame : other = imp := List.inj_on_of_nodup_map hdistinct hother hmem hbinding
    subst hsame
    rw [Import.keys_eq_map_offered hplain hqualifies] at hkey
    obtain ⟨offered, hoffered, heq⟩ := List.mem_map.mp hkey
    obtain ⟨-, rfl⟩ := dotted_inj heq (Import.dot_notMem_of_mem_offered hplain hoffered) hname
    exact hoffered

/-- A file under the name of a library module, beside that module under another name: completion
lists what the file exports, and the function of the library that the file does not have is no name
of an import. -/
theorem Query.completion_agrees_with_table_shadowed :
    let rows : List FunctionRow :=
      [⟨"math", "abs", ["x"], [], none, "Absolute value."⟩,
        ⟨"math", "sqrt", ["x"], [], none, "Root."⟩]
    let snapshot : Snapshot :=
      { address := ⟨"file", none, .segments ["w", "main.aelys"], none, none⟩
        text := "needs util as math\nneeds std.math as m\nlet x = math."
        path := some (.ofText "/w/main.aelys")
        library := ⟨rows.map FunctionRow.function, [], []⟩
        sources :=
          ⟨.empty, [(.ofText "/w/util.ae", "pub fn abs(v) \x7b\x7d\nfn sqrt(v) \x7b\x7d")]⟩ }
    let imp : Import := ⟨"util", some "math", 0⟩
    let position : Position := ⟨2, 13⟩
    ((Import.scan snapshot.text).map Import.binding).Nodup ∧ imp ∈ Import.scan snapshot.text ∧
      imp.Qualifies ∧ AfterDot snapshot.text imp.binding position ∧
      (∃ entry, snapshot.table.get? "math.abs" = some entry ∧
        (entry.origin = .libraryImport ∨ entry.origin = .fileImport)) ∧
      ¬ ∃ entry, snapshot.table.get? "math.sqrt" = some entry ∧
        (entry.origin = .libraryImport ∨ entry.origin = .fileImport) := by
  intro rows snapshot imp position
  have hdistinct : ((Import.scan snapshot.text).map Import.binding).Nodup := by decide +kernel
  have hmem : imp ∈ Import.scan snapshot.text := by decide +kernel
  have hqualifies : imp.Qualifies := Or.inl rfl
  have hcursor : AfterDot snapshot.text imp.binding position :=
    ⟨['l', 'e', 't', ' ', 'x', ' ', '=', ' '], [], by decide +kernel, by decide +kernel,
      by rintro c ⟨⟩; decide⟩
  obtain ⟨items, hitems, hiff⟩ :=
    completion_agrees_with_table snapshot hdistinct hmem hqualifies hcursor
  have hlisted : (completions? snapshot position).map (·.map fun item => (item.kind, item.label)) =
      some [(.method, "abs")] := by
    decide +kernel
  rw [hitems, Option.map_some, Option.some.injEq, List.map_eq_singleton_iff] at hlisted
  obtain ⟨item, rfl, hitem⟩ := hlisted
  obtain ⟨hkind, hlabel⟩ := Prod.mk.inj hitem
  refine ⟨hdistinct, hmem, hqualifies, hcursor, ?_, ?_⟩
  · exact ((hiff "abs").mp ⟨item, by simp, Or.inr hkind, hlabel⟩).2
  · intro hentry
    obtain ⟨other, hother, -, hsqrt⟩ := (hiff "sqrt").mpr ⟨by decide +kernel, hentry⟩
    rw [List.mem_singleton.mp hother, hlabel] at hsqrt
    exact absurd hsqrt (by decide)

end LanguageServer
