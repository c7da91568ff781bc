import LanguageServer.Proofs.Source.Find
import LanguageServer.Proofs.Text.Split
import LanguageServer.Source.Import

/-!
# Imports as they are found

The imports of a text consist of plain names: each segment of the path is one, and so is the alias
(`Import.plain_of_mem_scan`).  In particular the name that code refers to an import by is a plain
name, and no dot is in it (`Import.Plain.isName_binding`).

A module of the standard library is known in code by its binding and in the library by its whole
path after the segment `std`.  The two are the same when the path has one more segment only, and
otherwise the second has a dot in it (`Import.binding_eq_of_stdModule`).
-/

namespace LanguageServer.Import

open Text Source

/-! ## What is read -/

/-- The segments of the path, and the alias if there is one, are plain names. -/
structure Plain (imp : Import) : Prop where
  segments : ∀ segment ∈ imp.segments, isName isNamePart segment.toList = true
  alternate : ∀ name ∈ imp.alternate, isName isNamePart name.toList = true

/-- The rest of a path goes on with the segment that was begun, and after it come names. -/
lemma parts_pathRest (cs : List Char) :
    ∃ first others, splitOn '.' (pathRest cs).1 = first :: others ∧ first.all isNamePart = true ∧
      ∀ part ∈ others, isName isNamePart part = true := by
  have hstart : ∀ c, isNameStart c = true → c ≠ '.' := by
    rintro c hc rfl
    exact absurd hc (by decide)
  have hpart : ∀ c, isNamePart c = true → c ≠ '.' := by
    rintro c hc rfl
    exact absurd hc (by decide)
  fun_induction pathRest cs with
  | case1 => exact ⟨[], [], by simp [splitOn], rfl, by simp⟩
  | case2 c cs hc path rest hpath ih =>
    obtain ⟨first, others, hsplit, hfirst, hothers⟩ := ih
    rw [hpath] at hsplit
    refine ⟨[], (c :: first) :: others, ?_, rfl, ?_⟩
    · rw [← List.nil_append ('.' :: c :: path), splitOn_append,
        splitOn_cons_of_ne (hstart c hc) hsplit]
      rfl
    · intro part hmem
      rcases List.mem_cons.mp hmem with rfl | hmem
      · rw [isName, hc, hfirst]
        rfl
      · exact hothers part hmem
  | case3 => exact ⟨[], [], by simp [splitOn], rfl, by simp⟩
  | case4 c cs _ hc path rest hpath ih =>
    obtain ⟨first, others, hsplit, hfirst, hothers⟩ := ih
    rw [hpath] at hsplit
    exact ⟨c :: first, others, splitOn_cons_of_ne (hpart c hc) hsplit, by simp [hc, hfirst],
      hothers⟩
  | case5 => exact ⟨[], [], by simp [splitOn], rfl, by simp⟩

lemma names_of_path? {cs path rest : List Char} (h : path? cs = some (path, rest)) :
    ∀ part ∈ splitOn '.' path, isName isNamePart part = true := by
  cases cs with
  | nil => cases h
  | cons c cs =>
    rw [path?] at h
    split at h
    · rename_i hc
      cases h
      obtain ⟨first, others, hsplit, hfirst, hothers⟩ := parts_pathRest cs
      have hdot : c ≠ '.' := by
        rintro rfl
        exact absurd hc (by decide)
      rw [splitOn_cons_of_ne hdot hsplit]
      intro part hmem
      rcases List.mem_cons.mp hmem with rfl | hmem
      · rw [isName, hc, hfirst]
        rfl
      · exact hothers part hmem
    · cases h

lemma name_of_alternate? {cs name rest : List Char} (h : alternate? cs = some (name, rest)) :
    isName isNamePart name = true := by
  simp only [alternate?, Option.bind_eq_bind, Option.bind_eq_some_iff] at h
  obtain ⟨_, -, _, -, _, -, hname⟩ := h
  exact (name_of_name? hname).1

lemma names_of_read? {cs path rest : List Char} {alternate : Option (List Char)}
    (h : read? cs = some ((path, alternate), rest)) :
    (∀ part ∈ splitOn '.' path, isName isNamePart part = true) ∧
      ∀ name ∈ alternate, isName isNamePart name = true := by
  simp only [read?, Option.bind_eq_bind, Option.bind_eq_some_iff] at h
  obtain ⟨_, -, _, -, ⟨found, left⟩, hpath, h⟩ := h
  split at h
  · rename_i name after hname
    cases h
    exact ⟨names_of_path? hpath, by simpa using name_of_alternate? hname⟩
  · cases h
    exact ⟨names_of_path? hpath, by simp⟩

/-- **The imports of a text consist of plain names.** -/
lemma plain_of_mem_scan {imp : Import} {text : String} (h : imp ∈ scan text) : imp.Plain := by
  obtain ⟨_, hline, himp⟩ := List.mem_flatten.mp h
  obtain ⟨⟨line, number⟩, -, rfl⟩ := List.mem_map.mp hline
  obtain ⟨⟨before, path, alternate⟩, hfound, rfl⟩ := List.mem_map.mp himp
  obtain ⟨input, rest, -, -, hread⟩ := read_of_mem_findAll hfound
  obtain ⟨hpath, halternate⟩ := names_of_read? hread
  constructor
  · intro segment hsegment
    simp only [segments, String.toList_ofList, List.mem_map] at hsegment
    obtain ⟨part, hpart, rfl⟩ := hsegment
    rw [String.toList_ofList]
    exact hpath part hpart
  · intro name hname
    simp only [Option.mem_def, Option.map_eq_some_iff] at hname
    obtain ⟨chars, hchars, rfl⟩ := hname
    rw [String.toList_ofList]
    exact halternate chars hchars

/-! ## Bindings -/

variable {imp : Import}

lemma segments_ne_nil (imp : Import) : imp.segments ≠ [] := by
  rw [segments, ne_eq, List.map_eq_nil_iff]
  exact splitOn_ne_nil '.' _

lemma Plain.isName_binding (h : imp.Plain) : isName isNamePart imp.binding.toList = true := by
  cases halternate : imp.alternate with
  | some name =>
    rw [binding, halternate]
    exact h.alternate name (by simp [halternate])
  | none =>
    have hlast := List.getLast?_eq_some_getLast imp.segments_ne_nil
    rw [binding, halternate, Option.getD_none, List.getLastD_eq_getLast?, hlast, Option.getD_some]
    exact h.segments _ (List.getLast_mem _)

lemma Plain.dot_notMem_binding (h : imp.Plain) : '.' ∉ imp.binding.toList :=
  notMem_of_isName h.isName_binding (by decide) (by decide)

lemma toList_modulePath (imp : Import) :
    imp.modulePath.toList = joinWith ['.'] (imp.segments.map String.toList) := by
  have hparts : imp.segments.map String.toList = splitOn '.' imp.modulePath.toList := by
    simp [segments, List.map_map, Function.comp_def]
  rw [hparts, joinWith_splitOn]

lemma exists_segments (h : imp.isStandard = true) :
    ∃ module modules, imp.segments = "std" :: module :: modules := by
  unfold isStandard at h
  split at h
  · rename_i module modules hsegments
    exact ⟨module, modules, hsegments⟩
  · cases h

lemma isStandard_iff (imp : Import) :
    imp.isStandard = true ↔ imp.segments.head? = some "std" ∧ 2 ≤ imp.segments.length := by
  constructor
  · intro h
    obtain ⟨module, modules, hsegments⟩ := exists_segments h
    rw [hsegments]
    exact ⟨rfl, by simp⟩
  · rintro ⟨hhead, hlength⟩
    unfold isStandard
    rcases hsegments : imp.segments with _ | ⟨first, _ | ⟨second, rest⟩⟩
    · simp [hsegments] at hlength
    · simp [hsegments] at hlength
    · rw [hsegments, List.head?_cons, Option.some.injEq] at hhead
      subst hhead
      rfl

lemma toList_stdModule {module : String} {modules : List String} (hstandard : imp.isStandard = true)
    (h : imp.segments = "std" :: module :: modules) :
    imp.stdModule.toList = joinWith ['.'] ((module :: modules).map String.toList) := by
  have hpath := imp.toList_modulePath
  rw [h] at hpath
  rw [stdModule, if_pos hstandard, String.toList_ofList, hpath]
  rfl

/-- A path of two segments has the same name in code and in the library. -/
lemma stdModule_eq_binding (hstandard : imp.isStandard = true) (hlength : imp.segments.length = 2)
    (halternate : imp.alternate = none) : imp.stdModule = imp.binding := by
  obtain ⟨module, modules, hsegments⟩ := exists_segments hstandard
  have hmodules : modules = [] := by simpa [hsegments] using hlength
  subst hmodules
  have hmodule : imp.stdModule = module :=
    String.toList_inj.mp (toList_stdModule hstandard hsegments)
  rw [hmodule, binding, halternate, hsegments]
  rfl

/-- A name of the library that has no dot in it comes from a path of two segments. -/
lemma binding_eq_of_stdModule (hstandard : imp.isStandard = true)
    (hdot : '.' ∉ imp.stdModule.toList) (halternate : imp.alternate = none) :
    imp.binding = imp.stdModule := by
  obtain ⟨module, modules, hsegments⟩ := exists_segments hstandard
  cases modules with
  | nil => exact (stdModule_eq_binding hstandard (by rw [hsegments]; rfl) halternate).symm
  | cons next modules =>
    rw [toList_stdModule hstandard hsegments] at hdot
    exact absurd (by simp [joinWith]) hdot

end LanguageServer.Import
