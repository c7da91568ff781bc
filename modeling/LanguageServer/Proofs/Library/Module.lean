import LanguageServer.Library.Builtin
import LanguageServer.Proofs.Source.Find
import LanguageServer.Proofs.Symbols.Precedence
import LanguageServer.Proofs.Text.Split

/-!
# The functions of a module

A qualified name is taken apart at its last dot.  Put together again, the two parts are the name
(`QualifiedName.text_make`), so a function is told apart by them (`Library.eq_of_module_eq`).  Where
the name of a function has no dot of its own, the parts are the module and the name that were put
together (`QualifiedName.module_make`, `QualifiedName.last_make`), and a function is found among
those of its module by its name (`Library.findRev?_moduleFunctions`).

The names in the tables of the built-in library are plain (`Library.plain_of_mem_functionRows`).
-/

namespace LanguageServer

open Text Source

namespace QualifiedName

variable {module name : String}

lemma segments_make (hname : '.' ∉ name.toList) :
    (make module name).segments = splitOn '.' module.toList ++ [name.toList] := by
  have htext : (make module name).text.toList = module.toList ++ '.' :: name.toList := by
    simp [make]
  rw [segments, htext, splitOn_append, splitOn_of_notMem hname]

lemma module_make (hname : '.' ∉ name.toList) : (make module name).module = module := by
  rw [QualifiedName.module, segments_make hname, List.dropLast_concat, joinWith_splitOn,
    String.ofList_toList]

lemma last_make (hname : '.' ∉ name.toList) : (make module name).last = name := by
  rw [last, segments_make hname, List.getLastD_concat, String.ofList_toList]

lemma dot_notMem_last (name : QualifiedName) : '.' ∉ name.last.toList := by
  rw [last, String.toList_ofList, List.getLastD_eq_getLast?]
  cases hlast : name.segments.getLast? with
  | none => simp
  | some segment => exact separator_notMem (List.mem_of_getLast? hlast)

/-- A name that was put together is its module, a dot and its last segment, however many dots it
has. -/
lemma text_make (module name : String) :
    (make module name).text = (make module name).module ++ "." ++ (make module name).last := by
  set whole := make module name with hwhole
  have hsegments : whole.segments = splitOn '.' module.toList ++ splitOn '.' name.toList := by
    have htext : whole.text.toList = module.toList ++ '.' :: name.toList := by simp [hwhole, make]
    rw [segments, htext, splitOn_append]
  obtain ⟨before, segment, hconcat⟩ :=
    (List.eq_nil_or_concat' (splitOn '.' name.toList)).resolve_left (splitOn_ne_nil '.' _)
  rw [hconcat, ← List.append_assoc] at hsegments
  have hne : splitOn '.' module.toList ++ before ≠ [] :=
    List.append_ne_nil_of_left_ne_nil (splitOn_ne_nil '.' _) _
  have htext : whole.text.toList = joinWith ['.'] whole.segments := (joinWith_splitOn '.' _).symm
  rw [← String.toList_inj, htext, QualifiedName.module, last, hsegments, List.dropLast_concat,
    List.getLastD_concat, joinWith_concat _ hne]
  simp

end QualifiedName

/-- The names of the row are plain. -/
structure FunctionRow.Plain (row : FunctionRow) : Prop where
  module : isName isNamePart row.module.toList = true
  name : isName isNamePart row.name.toList = true

lemma FunctionRow.Plain.dot_notMem_name {row : FunctionRow} (h : row.Plain) :
    '.' ∉ row.name.toList :=
  notMem_of_isName h.name (by decide) (by decide)

lemma FunctionRow.Plain.dot_notMem_module {row : FunctionRow} (h : row.Plain) :
    '.' ∉ row.module.toList :=
  notMem_of_isName h.module (by decide) (by decide)

namespace Library

variable {functions : List FunctionRow} {constants : List ConstantRow}
  {attributes : List Attribute} {library : Library}

lemma mem_moduleFunctions_iff {f : LibraryFunction} {module : String} :
    f ∈ library.moduleFunctions module ↔ f ∈ library.functions ∧ f.name.module = module := by
  rw [moduleFunctions, List.mem_filter, beq_iff_eq]

lemma functions_ofTables (h : ofTables functions constants attributes = .ok library) :
    library.functions = functions.map FunctionRow.function := by
  unfold ofTables at h
  split at h
  · cases h
  · cases h
    rfl

/-- A function of the library has its module, a dot and its last segment as its name. -/
lemma text_of_mem (h : ofTables functions constants attributes = .ok library) {f : LibraryFunction}
    (hf : f ∈ library.functions) : f.name.text = f.name.module ++ "." ++ f.name.last := by
  rw [functions_ofTables h] at hf
  obtain ⟨row, -, rfl⟩ := List.mem_map.mp hf
  exact QualifiedName.text_make row.module row.name

/-- A function is told apart by its module and its name. -/
lemma eq_of_module_eq (h : ofTables functions constants attributes = .ok library)
    {f g : LibraryFunction} (hf : f ∈ library.functions) (hg : g ∈ library.functions)
    (hmodule : f.name.module = g.name.module) (hlast : f.name.last = g.name.last) : f = g := by
  apply List.inj_on_of_nodup_map (nodup_names h) hf hg
  rw [text_of_mem h hf, text_of_mem h hg, hmodule, hlast]

/-- In a module a function is told apart by its name. -/
lemma nodup_last_moduleFunctions (h : ofTables functions constants attributes = .ok library)
    (module : String) : ((library.moduleFunctions module).map (·.name.last)).Nodup := by
  refine ((nodup_names h).of_map.filter _).map_on ?_
  intro f hf g hg hlast
  obtain ⟨hf, hfmodule⟩ := mem_moduleFunctions_iff.mp hf
  obtain ⟨hg, hgmodule⟩ := mem_moduleFunctions_iff.mp hg
  exact eq_of_module_eq h hf hg (hfmodule.trans hgmodule.symm) hlast

/-- A function is found in its module by its name. -/
lemma findRev?_moduleFunctions (h : ofTables functions constants attributes = .ok library)
    (hplain : ∀ row ∈ functions, row.Plain) {row : FunctionRow} (hrow : row ∈ functions) :
    (library.moduleFunctions row.module).findRev? (·.name.last == row.name) =
      some row.function := by
  have hdot := (hplain row hrow).dot_notMem_name
  have hnodup := nodup_last_moduleFunctions h row.module
  rw [findRev?_eq_find?_of_nodup hnodup, find?_eq_some_iff_of_nodup hnodup]
  refine ⟨mem_moduleFunctions_iff.mpr ⟨?_, QualifiedName.module_make hdot⟩,
    QualifiedName.last_make hdot⟩
  rw [functions_ofTables h]
  exact List.mem_map_of_mem hrow

lemma plain_of_mem_functionRows {row : FunctionRow} (h : row ∈ functionRows) : row.Plain := by
  have hall : ∀ row ∈ functionRows,
      isName isNamePart row.module.toList = true ∧ isName isNamePart row.name.toList = true := by
    decide +kernel
  exact ⟨(hall row h).1, (hall row h).2⟩

end Library

end LanguageServer
