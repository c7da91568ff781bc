import LanguageServer.Proofs.Library.Module
import LanguageServer.Proofs.Symbols.Origin

/-!
# Bare names of library functions

A bare name that is no key of the table is looked up once more: the first function of the library
with this name as its last segment is meant, and the answer is the entry that the table has under
the full name of that function.  There is such an entry exactly when the library has such a
function.

It need not be the entry of the function, though.  An import may put something else under the full
name when its alias is the module of the function: a file that exports a function of the same name,
or another module of the library that has one.  The last import with an entry under the full name
decides, and the answer describes the function exactly when this import keeps it
(`ResolvedImport.Keeps`).  Without an alias of this kind every answer does
(`SymbolTable.lookup_bare_describes_iff`).
-/

namespace LanguageServer

open Text

/-! ## What an entry says about a function -/

/-- The entry says about the function what the library says. -/
structure SymbolEntry.Describes (entry : SymbolEntry) (f : LibraryFunction) : Prop where
  documentation : entry.documentation = f.documentation
  parameters : entry.parameters = f.parameters
  origin : entry.origin = .library ∨ entry.origin = .libraryImport

lemma SymbolEntry.describes_ofLibrary_iff {f g : LibraryFunction} {label : String} {origin : Origin}
    (horigin : origin = .library ∨ origin = .libraryImport) :
    (ofLibrary g label origin).Describes f ↔
      g.documentation = f.documentation ∧ g.parameters = f.parameters :=
  ⟨fun h => ⟨h.documentation, h.parameters⟩, fun h => ⟨h.1, h.2, horigin⟩⟩

/-- What the import has under the name of the function is of the library and reads like it: it is
the function itself, or one with the same documentation and the same parameters. -/
def ResolvedImport.Keeps (library : Library) (f : LibraryFunction) (resolved : ResolvedImport) :
    Prop :=
  resolved.resolution = .standard ∧
    ∃ g ∈ library.moduleFunctions resolved.imported.stdModule,
      libraryKey resolved.imported g = f.name.text ∧
      g.documentation = f.documentation ∧ g.parameters = f.parameters

lemma Symbol.qualifier_of_dotted {text : String} {qualifier : Option String} {scope : Scope}
    {symbol : Symbol} (h : symbol ∈ scan text qualifier scope) {lead last : String}
    (hlast : '.' ∉ last.toList) (hname : symbol.qualifiedName = lead ++ "." ++ last) :
    qualifier = some lead := by
  cases qualifier with
  | none => exact absurd hname (qualifiedName_ne_dotted h lead last)
  | some q =>
    by_cases hq : q = ""
    · -- An empty qualifier leaves the bare name, which has no dot.
      have hbare : symbol.qualifiedName = symbol.name := by
        obtain ⟨found, _, _, -, -, -, -, rfl⟩ := spells_of_mem_scan h
        simp [ofFound, hq]
      have hdot := dot_notMem_of_mem_scan h
      rw [← hbare, hname] at hdot
      exact absurd (dot_mem_dotted lead last) hdot
    · have hqualified : symbol.qualifiedName = q ++ "." ++ symbol.name :=
        qualifiedName_of_mem_scan (by simpa using hq) h
      obtain ⟨rfl, -⟩ := dotted_inj (hqualified.symm.trans hname) (dot_notMem_of_mem_scan h) hlast
      rfl

section Library

variable {functions : List FunctionRow} {constants : List ConstantRow}
  {attributes : List Attribute} {library : Library} {f : LibraryFunction}
  (hlibrary : Library.ofTables functions constants attributes = .ok library)

include hlibrary

namespace ResolvedImport

/-- The entry that an import has under the name of a function describes the function exactly when
the import keeps it. -/
lemma describes_iff_keeps {resolved : ResolvedImport} {entry : SymbolEntry}
    (h : resolved.contribution? library f.name.text = some entry) :
    entry.Describes f ↔ resolved.Keeps library f := by
  obtain ⟨imported, resolution⟩ := resolved
  cases resolution with
  | standard =>
    obtain ⟨g, hfound, rfl⟩ := Option.map_eq_some_iff.mp h
    rw [List.findRev?_eq_find?_reverse] at hfound
    have hg := List.mem_reverse.mp (List.mem_of_find?_eq_some hfound)
    have hkey : libraryKey imported g = f.name.text := by simpa using List.find?_some hfound
    rw [SymbolEntry.describes_ofLibrary_iff (Or.inr rfl)]
    constructor
    · rintro ⟨hdocumentation, hparameters⟩
      exact ⟨rfl, g, hg, hkey, hdocumentation, hparameters⟩
    · rintro ⟨-, other, hother, hkey', hdocumentation, hparameters⟩
      -- The module has one function only under the name.
      obtain ⟨-, hlast⟩ := dotted_inj (hkey.trans hkey'.symm) g.name.dot_notMem_last
        other.name.dot_notMem_last
      have hnodup := Library.nodup_last_moduleFunctions hlibrary imported.stdModule
      obtain rfl := List.inj_on_of_nodup_map hnodup hg hother hlast
      exact ⟨hdocumentation, hparameters⟩
  | module path symbols =>
    obtain ⟨symbol, -, rfl⟩ := Option.map_eq_some_iff.mp h
    refine iff_of_false (fun hdescribes => ?_) (fun hkeeps => ?_)
    · rcases hdescribes.origin with horigin | horigin <;> cases horigin
    · cases hkeeps.1
  | missing => cases h

lemma keeps_of_alternate_ne (hf : f ∈ library.functions) {imp : Import} {sources : Sources}
    {directory : Option Path} (halternate : imp.alternate ≠ some f.name.module)
    (h : f.name.text ∈ (imp.resolve sources directory).keys library) :
    (imp.resolve sources directory).Keeps library f := by
  have htext := Library.text_of_mem hlibrary hf
  have himported : (imp.resolve sources directory).imported = imp := rfl
  unfold keys at h
  split at h
  · rename_i hresolution
    obtain ⟨g, hg, hkey⟩ := List.mem_map.mp h
    rw [himported] at hg hkey
    obtain ⟨hbinding, hlast⟩ := dotted_inj (hkey.trans htext) g.name.dot_notMem_last
      f.name.dot_notMem_last
    -- The binding is the module of the import, so it has the function itself.
    have hmodule : imp.stdModule = f.name.module := by
      cases hother : imp.alternate with
      | none => rwa [hother, Option.getD_none] at hbinding
      | some q =>
        rw [hother, Option.getD_some] at hbinding
        exact absurd (hother.trans (congrArg some hbinding)) halternate
    obtain ⟨hmem, hgmodule⟩ := Library.mem_moduleFunctions_iff.mp hg
    obtain rfl := Library.eq_of_module_eq hlibrary hmem hf (hgmodule.trans hmodule) hlast
    exact ⟨hresolution, g, hg, hkey, rfl, rfl⟩
  · rename_i path symbols hresolution
    obtain ⟨-, _, content, -, -, -, rfl⟩ := Import.file_of_resolve hresolution
    obtain ⟨symbol, hsymbol, hname⟩ := List.mem_map.mp h
    obtain ⟨found, hfound, rfl⟩ := List.mem_map.mp (List.mem_filter.mp hsymbol).1
    exact absurd (Symbol.qualifier_of_dotted hfound f.name.dot_notMem_last (hname.trans htext))
      halternate
  · cases h

end ResolvedImport

namespace SymbolTable

lemma get?_name (hf : f ∈ library.functions) (resolved : List ResolvedImport) (text : String) :
    (merge library resolved (Symbol.scan text none .current)).get? f.name.text =
      some (((resolved.findRev? fun r => f.name.text ∈ r.keys library).bind
        (·.contribution? library f.name.text)).getD (.ofLibrary f f.label .library)) := by
  have hdocument : lastIn? f.name.text (documentLayer (Symbol.scan text none .current)) = none := by
    refine lastIn?_documentLayer_eq_none fun symbol hsymbol => ?_
    rw [Library.text_of_mem hlibrary hf]
    exact Symbol.qualifiedName_ne_dotted hsymbol _ _
  have hentry : lastIn? f.name.text (libraryLayer library) =
      some (.ofLibrary f f.label .library) := by
    have hnames := Library.nodup_names hlibrary
    have hfound := (find?_eq_some_iff_of_nodup hnames).mpr ⟨hf, rfl⟩
    rw [libraryLayer, lastIn?_map, findRev?_eq_find?_of_nodup hnames, hfound, Option.map_some]
  have hlast : (fun r : ResolvedImport => (r.contribution? library f.name.text).isSome) =
      fun r => decide (f.name.text ∈ r.keys library) := by
    funext r
    rw [Bool.eq_iff_iff, decide_eq_true_iff, ResolvedImport.isSome_contribution?_iff]
  rw [get?_merge, hdocument, hentry, findSomeRev?_eq_bind_findRev?, hlast, Option.none_or]
  cases (resolved.findRev? fun r => decide (f.name.text ∈ r.keys library)).bind
    (·.contribution? library f.name.text) <;> rfl

/-- The entry under the name of a library function describes it exactly when the last import that
has an entry there keeps the function. -/
lemma exists_get?_name (hf : f ∈ library.functions) (resolved : List ResolvedImport)
    (text : String) :
    ∃ entry,
      (merge library resolved (Symbol.scan text none .current)).get? f.name.text = some entry ∧
      (entry.Describes f ↔
        ∀ last, (resolved.findRev? fun r => f.name.text ∈ r.keys library) = some last →
          last.Keeps library f) := by
  refine ⟨_, get?_name hlibrary hf resolved text, ?_⟩
  cases hlast : resolved.findRev? fun r => decide (f.name.text ∈ r.keys library) with
  | none =>
    have hdescribes : (SymbolEntry.ofLibrary f f.label .library).Describes f :=
      (SymbolEntry.describes_ofLibrary_iff (Or.inl rfl)).mpr ⟨rfl, rfl⟩
    exact iff_of_true hdescribes fun last h => by cases h
  | some last =>
    rw [List.findRev?_eq_find?_reverse] at hlast
    have hkey : f.name.text ∈ last.keys library := by simpa using List.find?_some hlast
    obtain ⟨entry, hentry⟩ :=
      Option.isSome_iff_exists.mp (ResolvedImport.isSome_contribution?_iff.mpr hkey)
    rw [Option.bind_some, hentry, Option.getD_some,
      ResolvedImport.describes_iff_keeps hlibrary hentry]
    simp

end SymbolTable

end Library

/-! ## Looking up bare names -/

namespace SymbolTable

variable {table : SymbolTable} {library : Library} {name : String}

lemma lookup_eq_bind (hkey : name ∉ table.keys) :
    table.lookup library name = (library.findBare? name).bind (table.get? ·.name.text) := by
  rw [lookup, (get?_eq_none_iff _ _).mpr hkey]
  cases hfound : library.findBare? name with
  | none => simp
  | some f =>
    have hname : f.name.last = name := by simpa using List.find?_some hfound
    have hdot : ¬ name.toList.contains '.' = true := by
      rw [List.contains_iff_mem, ← hname]
      exact f.name.dot_notMem_last
    simp only [if_neg hdot]

variable {functions : List FunctionRow} {constants : List ConstantRow}
  {attributes : List Attribute}

/-- **When a bare name is answered by the library function that it means.**  A name that is no key
of the table is answered exactly when some function of the library has it as its last segment.  The
answer carries the documentation and the parameters of the first of these functions, and comes from
the library, exactly when the last import that has an entry under the full name of the function
keeps it, or when no import has one.  This is so whenever no import has the module of the function
as its alias. -/
theorem lookup_bare_describes_iff
    (hlibrary : Library.ofTables functions constants attributes = .ok library)
    (imports : List Import) (sources : Sources) (directory : Option Path) (text name : String) :
    let resolved := imports.map (·.resolve sources directory)
    let table := merge library resolved (Symbol.scan text none .current)
    name ∉ table.keys →
      ((table.lookup library name).isSome = true ↔ ∃ f ∈ library.functions, f.name.last = name) ∧
      ∀ before f after, library.functions = before ++ f :: after → f.name.last = name →
        (∀ g ∈ before, g.name.last ≠ name) →
        ∃ entry, table.lookup library name = some entry ∧
          (entry.Describes f ↔
            ∀ last, (resolved.findRev? fun r => f.name.text ∈ r.keys library) = some last →
              last.Keeps library f) ∧
          ((∀ imp ∈ imports, imp.alternate ≠ some f.name.module) → entry.Describes f) := by
  intro resolved table hkey
  rw [lookup_eq_bind hkey]
  refine ⟨?_, ?_⟩
  · cases hfound : library.findBare? name with
    | none =>
      rw [Library.findBare?, List.find?_eq_none] at hfound
      refine iff_of_false (by simp) ?_
      rintro ⟨f, hf, hname⟩
      exact hfound f hf (by simpa using hname)
    | some f =>
      have hf := List.mem_of_find?_eq_some hfound
      have hname : f.name.last = name := by simpa using List.find?_some hfound
      obtain ⟨entry, hentry, -⟩ := exists_get?_name hlibrary hf resolved text
      refine iff_of_true ?_ ⟨f, hf, hname⟩
      rw [Option.bind_some, hentry, Option.isSome_some]
  · intro before f after hfunctions hname hbefore
    have hf : f ∈ library.functions := by
      rw [hfunctions]
      exact List.mem_append_right before List.mem_cons_self
    have hfound : library.findBare? name = some f := by
      rw [Library.findBare?, List.find?_eq_some_iff_append]
      exact ⟨by simpa using hname, before, after, hfunctions, by simpa using hbefore⟩
    obtain ⟨entry, hentry, hiff⟩ := exists_get?_name hlibrary hf resolved text
    refine ⟨entry, by rw [hfound, Option.bind_some, hentry], hiff, fun halternate => ?_⟩
    refine hiff.mpr fun last hlast => ?_
    rw [List.findRev?_eq_find?_reverse] at hlast
    have hmem := List.mem_reverse.mp (List.mem_of_find?_eq_some hlast)
    have hlastKey : f.name.text ∈ last.keys library := by simpa using List.find?_some hlast
    obtain ⟨imp, himp, rfl⟩ := List.mem_map.mp hmem
    exact ResolvedImport.keeps_of_alternate_ne hlibrary hf (halternate imp himp) hlastKey

/-- Another module under the name of the first one hides its function, and an import of the first
one after it brings the function back. -/
theorem lookup_bare_describes_iff_restored :
    let print : FunctionRow := ⟨"io", "print", ["value"], [], none, "Prints."⟩
    let log : FunctionRow := ⟨"log", "print", ["level", "message"], [], none, "Logs."⟩
    let library : Library := ⟨[print.function, log.function], [], []⟩
    let other : Import := ⟨"std.log", some "io", 0⟩
    let same : Import := ⟨"std.io", none, 1⟩
    let sources : Sources := ⟨.empty, []⟩
    let hidden := merge library ([other].map (·.resolve sources none))
      (Symbol.scan "" none .current)
    let restored := merge library ([other, same].map (·.resolve sources none))
      (Symbol.scan "" none .current)
    Library.ofTables [print, log] [] [] = .ok library ∧
      "print" ∉ hidden.keys ∧ "print" ∉ restored.keys ∧
      (∃ entry, hidden.lookup library "print" = some entry ∧ ¬ entry.Describes print.function) ∧
      ∃ entry, restored.lookup library "print" = some entry ∧ entry.Describes print.function := by
  intro print log library other same sources hidden restored
  have hlibrary : Library.ofTables [print, log] [] [] = .ok library := by rfl
  have hhidden : "print" ∉ hidden.keys := by decide +kernel
  have hrestored : "print" ∉ restored.keys := by decide +kernel
  have hname : print.function.name.last = "print" := by decide +kernel
  obtain ⟨-, hfirst⟩ := lookup_bare_describes_iff hlibrary [other] sources none "" "print" hhidden
  obtain ⟨-, hsecond⟩ :=
    lookup_bare_describes_iff hlibrary [other, same] sources none "" "print" hrestored
  obtain ⟨entry, hentry, hiff, -⟩ := hfirst [] print.function [log.function] rfl hname (by simp)
  obtain ⟨entry', hentry', hiff', -⟩ := hsecond [] print.function [log.function] rfl hname (by simp)
  refine ⟨hlibrary, hhidden, hrestored, ⟨entry, hentry, ?_⟩, entry', hentry', ?_⟩
  · intro hdescribes
    obtain ⟨-, g, hg, -, hdocumentation, -⟩ :=
      hiff.mp hdescribes ⟨other, .standard⟩ (by decide +kernel)
    have hmodule : library.moduleFunctions other.stdModule = [log.function] := by decide +kernel
    rw [hmodule, List.mem_singleton] at hg
    rw [hg] at hdocumentation
    exact absurd hdocumentation (by decide +kernel)
  · refine hiff'.mpr fun last hlast => ?_
    have hfound : ([other, same].map (·.resolve sources none)).findRev?
        (fun r => print.function.name.text ∈ r.keys library) = some ⟨same, .standard⟩ := by
      decide +kernel
    obtain rfl := Option.some.inj (hfound.symm.trans hlast)
    exact ⟨rfl, print.function, by decide +kernel, by decide +kernel, rfl, rfl⟩

/-- A file under the name of a library module that exports a function of the same name: the bare
name is answered with the function of the file. -/
theorem lookup_bare_may_miss_library :
    let text := "needs util as io\nprint(1)"
    let sources : Sources := ⟨.empty, [(.ofText "/w/util.ae",
      "// Logs a message\npub fn print(level, message) \x7b return level \x7d\n")]⟩
    let resolved := (Import.scan text).map (·.resolve sources (some (.ofText "/w")))
    let table := merge Library.builtin resolved (Symbol.scan text none .current)
    "print" ∉ table.keys ∧
      (Library.builtin.findBare? "print").map (fun f => (f.label, f.documentation)) =
        some ("io.print(value)", "Prints value to stdout followed by a newline.") ∧
      (table.lookup Library.builtin "print").map (fun e => (e.label, e.documentation, e.origin)) =
        some ("io.print(level, message)", "Logs a message", .fileImport) := by
  decide +kernel

end SymbolTable

end LanguageServer
