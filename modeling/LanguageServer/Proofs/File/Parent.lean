import LanguageServer.File.Path
import LanguageServer.Proofs.Text.Split

/-!
# The directory of a path

The directory of a path is cut out of the path as written.  Its components are those of the path
without the last one (`Path.components_parent?`), so it depends on the components alone: two ways to
write a path lead to directories that are the same.
-/

namespace LanguageServer.Path

open Text

/-! ## Parts that do not count -/

/-- The steps that the parts stand for. -/
def steps (parts : List FileName) : List Component :=
  parts.filterMap component?

lemma component?_here : component? here = none := by
  decide

lemma steps_dropIdle (parts : List FileName) : steps (dropIdle parts) = steps parts := by
  have hidle : ∀ part ∈ (parts.reverse.takeWhile fun part => component? part == none).reverse,
      component? part = none := by
    intro part hpart
    simpa using List.all_eq_true.mp List.all_takeWhile part (List.mem_reverse.mp hpart)
  have hsplit : parts = dropIdle parts ++
      (parts.reverse.takeWhile fun part => component? part == none).reverse := by
    rw [dropIdle, ← List.reverse_append, List.takeWhile_append_dropWhile, List.reverse_reverse]
  calc steps (dropIdle parts)
      = steps (dropIdle parts) ++
          steps (parts.reverse.takeWhile fun part => component? part == none).reverse := by
        rw [steps, steps, List.filterMap_eq_nil_iff.mpr hidle, List.append_nil]
    _ = steps parts := by
        rw [steps, steps, ← List.filterMap_append, ← hsplit, steps]

lemma dropIdle_isPrefix (parts : List FileName) : dropIdle parts <+: parts := by
  rw [dropIdle, ← List.reverse_suffix, List.reverse_reverse]
  exact List.dropWhile_suffix _

/-- What is left of the parts is nothing, or it ends with a part that counts. -/
lemma dropIdle_cases (parts : List FileName) :
    dropIdle parts = [] ∨
      ∃ lead last component,
        dropIdle parts = lead ++ [last] ∧ component? last = some component := by
  rcases List.eq_nil_or_concat (dropIdle parts) with hnil | ⟨lead, last, hlast⟩
  · exact Or.inl hnil
  · right
    rw [List.concat_eq_append] at hlast
    have hreverse : (parts.reverse.dropWhile fun part => component? part == none) =
        last :: lead.reverse := by
      rw [← List.reverse_reverse (List.dropWhile _ _), ← dropIdle, hlast, List.reverse_append]
      rfl
    have hcounts := List.head?_dropWhile_not (fun part => component? part == none) parts.reverse
    rw [hreverse] at hcounts
    obtain ⟨component, hcomponent⟩ : ∃ component, component? last = some component :=
      Option.isSome_iff_exists.mp (by simpa using hcounts)
    exact ⟨lead, last, component, hlast, hcomponent⟩

/-! ## Paths put together from parts -/

/-- Parts that are joined and cut again lead to the same steps.  No parts at all become a single
empty one, which does not count. -/
lemma steps_splitOn_joinWith {parts : List FileName} (hparts : ∀ part ∈ parts, slash ∉ part) :
    steps (splitOn slash (joinWith [slash] parts)) = steps parts := by
  by_cases hne : parts = []
  · subst hne
    rfl
  · rw [splitOn_joinWith hne hparts]

lemma components_of_absolute {path : Path} (h : path.isAbsolute = true) :
    path.components = .root :: steps (path.parts.drop 1) := by
  obtain ⟨rest, hbytes⟩ : ∃ rest, path.bytes = slash :: rest := by
    cases hbytes : path.bytes with
    | nil => simp [isAbsolute, hbytes] at h
    | cons c cs => simp_all [isAbsolute]
  have hparts : path.parts = [] :: splitOn slash rest := by
    simp [parts, hbytes, splitOn]
  rw [components, if_pos h, hparts]
  rfl

lemma components_of_beginsHere {path : Path} (habsolute : path.isAbsolute = false)
    (h : path.beginsHere = true) : path.components = .here :: steps (path.parts.drop 1) := by
  obtain ⟨rest, hparts⟩ : ∃ rest, path.parts = here :: rest := by
    cases hparts : path.parts with
    | nil => simp [beginsHere, hparts] at h
    | cons part rest => simp_all [beginsHere]
  simp [components, habsolute, h, hparts, component?_here, steps]

lemma components_of_relative {path : Path} (habsolute : path.isAbsolute = false)
    (h : path.beginsHere = false) : path.components = steps path.parts := by
  simp [components, habsolute, h, steps]

lemma isAbsolute_joinWith {first : FileName} {others : List FileName} (hfirst : first ≠ [])
    (hslash : slash ∉ first) : isAbsolute ⟨joinWith [slash] (first :: others)⟩ = false := by
  obtain ⟨c, cs, rfl⟩ := List.exists_cons_of_ne_nil hfirst
  have hc : c ≠ slash := fun h => hslash (by simp [h])
  cases others with
  | nil => simp [isAbsolute, joinWith, hc]
  | cons next others => simp [isAbsolute, joinWith, hc]

lemma isAbsolute_of_parts {path : Path} {next : FileName} {others : List FileName}
    (h : path.parts = [] :: next :: others) : path.isAbsolute = true := by
  have hbytes : path.bytes = slash :: joinWith [slash] (next :: others) := by
    rw [← joinWith_splitOn slash path.bytes, ← parts, h]
    rfl
  simp [isAbsolute, hbytes]

/-! ## The directory -/

/-- The components of the directory that holds the last of the given components.  The root is in no
directory. -/
def parentComponents? (components : List Component) : Option (List Component) :=
  match components.getLast? with
  | none | some .root => none
  | some _ => some components.dropLast

lemma component?_ne_root {part : FileName} : component? part ≠ some .root := by
  unfold component?
  split
  · simp
  · split <;> simp

lemma parentComponents?_append {part : FileName} {component : Component}
    (h : component? part = some component) (lead : List Component) :
    parentComponents? (lead ++ [component]) = some lead := by
  have hroot : component ≠ .root := by
    rintro rfl
    exact component?_ne_root h
  cases component <;> simp_all [parentComponents?]

variable {path : Path}

lemma steps_append_singleton {lead : List FileName} {last : FileName} {component : Component}
    (h : component? last = some component) :
    steps (lead ++ [last]) = steps lead ++ [component] := by
  simp [steps, h]

lemma slash_notMem {part : FileName} (h : part ∈ path.parts) : slash ∉ part :=
  separator_notMem h

lemma mem_of_mem_dropIdle {parts lead : List FileName} {last part : FileName}
    (hparts : dropIdle parts = lead ++ [last]) (h : part ∈ dropIdle lead) : part ∈ parts := by
  apply (dropIdle_isPrefix parts).subset
  rw [hparts, List.mem_append]
  exact Or.inl ((dropIdle_isPrefix lead).subset h)

lemma components_parent?_absolute (h : path.isAbsolute = true) :
    path.parent?.map components = parentComponents? path.components := by
  rw [components_of_absolute h, ← steps_dropIdle, parent?, if_pos h]
  rcases dropIdle_cases (path.parts.drop 1) with hnil | ⟨lead, last, component, hlast, hcounts⟩
  · rw [hnil]
    rfl
  · have hslash : ∀ part ∈ dropIdle lead, slash ∉ part := fun part hpart =>
      slash_notMem (List.mem_of_mem_drop (mem_of_mem_dropIdle hlast hpart))
    have hparts : parts ⟨slash :: joinWith [slash] (dropIdle lead)⟩ =
        [] :: splitOn slash (joinWith [slash] (dropIdle lead)) := by
      simp [parts, splitOn]
    have hparent : components ⟨slash :: joinWith [slash] (dropIdle lead)⟩ =
        .root :: steps lead := by
      rw [components_of_absolute rfl, hparts, List.drop_succ_cons, List.drop_zero,
        steps_splitOn_joinWith hslash, steps_dropIdle]
    rw [hlast, steps_append_singleton hcounts, ← List.cons_append,
      parentComponents?_append hcounts, ← hparent]
    split
    · rename_i hnil
      exact absurd hnil (by simp)
    · rw [List.dropLast_concat, Option.map_some]

lemma components_parent?_beginsHere (habsolute : path.isAbsolute = false)
    (h : path.beginsHere = true) :
    path.parent?.map components = parentComponents? path.components := by
  rw [components_of_beginsHere habsolute h, ← steps_dropIdle, parent?, if_neg (by simp [habsolute]),
    if_pos h]
  rcases dropIdle_cases (path.parts.drop 1) with hnil | ⟨lead, last, component, hlast, hcounts⟩
  · rw [hnil]
    rfl
  · have hslash : ∀ part ∈ here :: dropIdle lead, slash ∉ part := by
      intro part hpart
      rcases List.mem_cons.mp hpart with rfl | hpart
      · decide
      · exact slash_notMem (List.mem_of_mem_drop (mem_of_mem_dropIdle hlast hpart))
    have hparts : parts ⟨joinWith [slash] (here :: dropIdle lead)⟩ = here :: dropIdle lead :=
      splitOn_joinWith (by simp) hslash
    have hparent : components ⟨joinWith [slash] (here :: dropIdle lead)⟩ =
        .here :: steps lead := by
      rw [components_of_beginsHere (isAbsolute_joinWith (by decide) (by decide))
        (by rw [beginsHere, hparts]; rfl), hparts, List.drop_succ_cons, List.drop_zero,
        steps_dropIdle]
    rw [hlast, steps_append_singleton hcounts, ← List.cons_append,
      parentComponents?_append hcounts, ← hparent]
    split
    · rename_i hnil
      exact absurd hnil (by simp)
    · rw [List.dropLast_concat, Option.map_some]

/-- What is left of a relative path above its last step begins like the path itself: it is still
relative, and it does not begin with a dot unless the path does. -/
lemma components_lead {lead : List FileName} {last : FileName} (habsolute : path.isAbsolute = false)
    (h : path.beginsHere = false) (hlast : dropIdle path.parts = lead ++ [last]) :
    components ⟨joinWith [slash] (dropIdle lead)⟩ = steps lead := by
  rw [← steps_dropIdle lead]
  have hslash : ∀ part ∈ dropIdle lead, slash ∉ part := fun part hpart =>
    slash_notMem (mem_of_mem_dropIdle hlast hpart)
  cases hlead : dropIdle lead with
  | nil => rfl
  | cons first others =>
    rw [hlead] at hslash
    obtain ⟨idle, hidle⟩ := dropIdle_isPrefix path.parts
    obtain ⟨more, hmore⟩ := dropIdle_isPrefix lead
    have hpath : path.parts = first :: (others ++ more ++ [last] ++ idle) := by
      rw [← hidle, hlast, ← hmore, hlead]
      simp
    have hne : first ≠ [] := by
      rintro rfl
      obtain ⟨next, rest, hrest⟩ := List.exists_cons_of_ne_nil
        (show others ++ more ++ [last] ++ idle ≠ [] by simp)
      rw [hrest] at hpath
      rw [isAbsolute_of_parts hpath] at habsolute
      cases habsolute
    have hparts : parts ⟨joinWith [slash] (first :: others)⟩ = first :: others :=
      splitOn_joinWith (by simp) hslash
    have hbegins : beginsHere ⟨joinWith [slash] (first :: others)⟩ = false := by
      rw [beginsHere, hparts]
      rwa [beginsHere, hpath] at h
    rw [components_of_relative (isAbsolute_joinWith hne (hslash first List.mem_cons_self)) hbegins,
      hparts]

lemma components_parent?_relative (habsolute : path.isAbsolute = false)
    (h : path.beginsHere = false) :
    path.parent?.map components = parentComponents? path.components := by
  rw [components_of_relative habsolute h, ← steps_dropIdle, parent?, if_neg (by simp [habsolute]),
    if_neg (by simp [h])]
  rcases dropIdle_cases path.parts with hnil | ⟨lead, last, component, hlast, hcounts⟩
  · rw [hnil]
    rfl
  · rw [hlast, steps_append_singleton hcounts, parentComponents?_append hcounts,
      ← components_lead habsolute h hlast]
    split
    · rename_i hnil
      exact absurd hnil (by simp)
    · rw [List.dropLast_concat, Option.map_some]

/-- **The directory of a path has the components of the path without the last one.** -/
lemma components_parent? (path : Path) :
    path.parent?.map components = parentComponents? path.components := by
  cases habsolute : path.isAbsolute with
  | true => exact components_parent?_absolute habsolute
  | false =>
    cases hbegins : path.beginsHere with
    | true => exact components_parent?_beginsHere habsolute hbegins
    | false => exact components_parent?_relative habsolute hbegins

end LanguageServer.Path
