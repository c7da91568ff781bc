import Mathlib.Tactic.Common
import LanguageServer.Text.Split

/-!
# Parts of a text

What `splitOn` makes of a text is determined by three facts: a separator cuts what is before it from
what is after it (`splitOn_append`), a text without separators is a single part
(`splitOn_of_notMem`), and no part holds a separator (`separator_notMem`).  Parts without separators
are therefore what their join is cut into (`splitOn_joinWith`).  A word without separators occurs in
the join only where it occurs in a part (`infix_joinWith`).  What holds of parts is shown of whole
texts from one separator to the next (`splitInduction`).

A text can therefore be taken apart at its last separator in one way only (`append_separator_inj`),
and at its first one (`separator_append_inj`).  For texts with a dot between them this is
`dotted_inj`.
-/

namespace LanguageServer.Text

variable {α : Type}

/-! ## Joining -/

lemma mem_joinWith {glue : List α} {parts : List (List α)} {c : α} (h : c ∈ joinWith glue parts) :
    c ∈ glue ∨ ∃ part ∈ parts, c ∈ part := by
  fun_induction joinWith glue parts with
  | case1 => cases h
  | case2 part => exact Or.inr ⟨part, List.mem_cons_self, h⟩
  | case3 part next parts ih =>
    rcases List.mem_append.mp h with h | h
    · rcases List.mem_append.mp h with h | h
      · exact Or.inr ⟨part, List.mem_cons_self, h⟩
      · exact Or.inl h
    · rcases ih h with h | ⟨other, hother, h⟩
      · exact Or.inl h
      · exact Or.inr ⟨other, List.mem_cons_of_mem part hother, h⟩

lemma joinWith_eq_intercalate (glue : List α) (parts : List (List α)) :
    joinWith glue parts = glue.intercalate parts := by
  fun_induction joinWith glue parts with
  | case1 => rfl
  | case2 => simp
  | case3 part next parts ih => rw [ih, List.intercalate_cons_cons]

lemma joinWith_concat (glue : List α) {parts : List (List α)} (hparts : parts ≠ [])
    (last : List α) : joinWith glue (parts ++ [last]) = joinWith glue parts ++ glue ++ last := by
  fun_induction joinWith glue parts with
  | case1 => exact absurd rfl hparts
  | case2 part => rfl
  | case3 part next parts ih =>
    rw [List.cons_append, List.cons_append, joinWith, ← List.cons_append, ih (List.cons_ne_nil _ _)]
    simp only [List.append_assoc]

lemma head?_joinWith {glue part : List α} (hpart : part ≠ []) (parts : List (List α)) :
    (joinWith glue (part :: parts)).head? = part.head? := by
  obtain ⟨c, cs, rfl⟩ := List.exists_cons_of_ne_nil hpart
  cases parts <;> rfl

lemma getLast?_joinWith {glue : List α} {parts : List (List α)}
    (hparts : ∀ part ∈ parts, part ≠ []) :
    (joinWith glue parts).getLast? = parts.getLast?.bind List.getLast? := by
  fun_induction joinWith glue parts with
  | case1 => rfl
  | case2 part => rfl
  | case3 part next parts ih =>
    have htail := ih fun other hother => hparts other (List.mem_cons_of_mem part hother)
    obtain ⟨last, hlast⟩ : ∃ last, (next :: parts).getLast? = some last :=
      ⟨_, List.getLast?_eq_some_getLast (List.cons_ne_nil next parts)⟩
    have hne : last ≠ [] := hparts last (List.mem_cons_of_mem part (List.mem_of_getLast? hlast))
    rw [List.getLast?_append, htail, List.getLast?_cons_cons, hlast, Option.bind_some,
      Option.or_of_isSome (List.getLast?_isSome.mpr hne)]

/-- What follows the first unit of the glue may as well belong to the parts. -/
lemma joinWith_cons_glue (separator : α) (glue part : List α) (parts : List (List α)) :
    joinWith (separator :: glue) (part :: parts) =
      joinWith [separator] (part :: parts.map (glue ++ ·)) := by
  induction parts generalizing part with
  | nil => rfl
  | cons next parts ih =>
    rw [joinWith, ih, List.map_cons, joinWith]
    cases parts <;> simp [joinWith]

/-! ## Words in parts of a text -/

/-- A run without the separator lies before it or after it. -/
lemma run_before_or_after {before run after lead rest : List α} {separator : α}
    (h : before ++ run ++ after = lead ++ separator :: rest) (hseparator : separator ∉ run) :
    (∃ more, lead = before ++ run ++ more) ∨
      ∃ more, before = lead ++ separator :: more ∧ rest = more ++ run ++ after := by
  rcases List.append_eq_append_iff.mp h with ⟨more, hlead, -⟩ | ⟨beyond, hbeyond, hrest⟩
  · exact Or.inl ⟨more, hlead⟩
  · cases beyond with
    | nil => exact Or.inl ⟨[], by rw [List.append_nil, hbeyond, List.append_nil]⟩
    | cons c beyond =>
      obtain ⟨rfl, rfl⟩ := List.cons.inj hrest
      rcases List.append_eq_append_iff.mp hbeyond with ⟨_, -, hrun⟩ | ⟨more, hbefore, hrun⟩
      · exact (hseparator (by simp [hrun])).elim
      · cases more with
        | nil => exact (hseparator (by rw [List.nil_append] at hrun; simp [← hrun])).elim
        | cons d more =>
          obtain ⟨rfl, rfl⟩ := List.cons.inj hrun
          exact Or.inr ⟨more, hbefore, rfl⟩

/-- A word that lies across no separator lies on one side of it. -/
lemma infix_of_append_separator {word lead rest : List α} {separator : α}
    (h : word <:+: lead ++ separator :: rest) (hseparator : separator ∉ word) :
    word <:+: lead ∨ word <:+: rest := by
  obtain ⟨before, after, htext⟩ := h
  rcases run_before_or_after htext hseparator with ⟨more, hlead⟩ | ⟨more, -, hrest⟩
  · exact Or.inl ⟨before, more, hlead.symm⟩
  · exact Or.inr ⟨more, after, hrest.symm⟩

lemma infix_joinWith {word : List α} (hne : word ≠ []) {separator : α}
    (hseparator : separator ∉ word)
    {parts : List (List α)} (h : word <:+: joinWith [separator] parts) :
    ∃ part ∈ parts, word <:+: part := by
  induction parts with
  | nil => exact absurd (List.infix_nil.mp h) hne
  | cons part rest ih =>
    cases rest with
    | nil => exact ⟨part, List.mem_cons_self, h⟩
    | cons next rest =>
      rw [joinWith, List.append_assoc, List.singleton_append] at h
      rcases infix_of_append_separator h hseparator with hpart | hrest
      · exact ⟨part, List.mem_cons_self, hpart⟩
      · obtain ⟨other, hother, hin⟩ := ih hrest
        exact ⟨other, List.mem_cons_of_mem part hother, hin⟩

/-! ## Cutting -/

/-- Induction over a list from one separator to the next, where `p` says what separates. -/
theorem splitInduction (p : α → Bool) {motive : List α → Prop}
    (unsplit : ∀ part, (∀ c ∈ part, p c = false) → motive part)
    (split : ∀ part c rest, p c = true → motive part → motive rest → motive (part ++ c :: rest))
    (cs : List α) : motive cs := by
  induction hlength : cs.length using Nat.strongRecOn generalizing cs with
  | ind n ih =>
    have hpart : ∀ c ∈ cs.takeWhile (! p ·), p c = false := by
      intro c hc
      simpa using List.all_eq_true.mp List.all_takeWhile c hc
    have hcut := List.takeWhile_append_dropWhile (p := (! p ·)) (l := cs)
    cases hrest : cs.dropWhile (! p ·) with
    | nil =>
      rw [hrest, List.append_nil] at hcut
      exact unsplit cs (hcut ▸ hpart)
    | cons c rest =>
      have hc : p c = true := by
        have hhead := List.head?_dropWhile_not (! p ·) cs
        rw [hrest] at hhead
        simpa using hhead
      rw [hrest] at hcut
      rw [← hcut]
      refine split _ c rest hc (unsplit _ hpart) (ih rest.length ?_ rest rfl)
      rw [← hlength, ← hcut, List.length_append, List.length_cons]
      omega

variable [DecidableEq α] {separator : α}

lemma splitOn_append (before after : List α) :
    splitOn separator (before ++ separator :: after) =
      splitOn separator before ++ splitOn separator after := by
  induction before with
  | nil => simp [splitOn]
  | cons c cs ih =>
    by_cases hc : c = separator
    · simp [splitOn, hc, ih]
    · obtain ⟨part, parts, hparts⟩ :=
        List.exists_cons_of_ne_nil (splitOn_ne_nil separator cs)
      simp [splitOn, hc, ih, hparts]

lemma splitOn_of_notMem {cs : List α} (h : separator ∉ cs) : splitOn separator cs = [cs] := by
  induction cs with
  | nil => rfl
  | cons c cs ih =>
    obtain ⟨hc, hcs⟩ := not_or.1 (List.mem_cons.not.1 h)
    simp [splitOn, Ne.symm hc, ih hcs]

lemma splitOn_cons_of_ne {c : α} (hc : c ≠ separator) {cs first : List α} {others : List (List α)}
    (h : splitOn separator cs = first :: others) :
    splitOn separator (c :: cs) = (c :: first) :: others := by
  simp [splitOn, hc, h]

lemma splitOn_eq_cons (cs : List α) :
    ∃ others, splitOn separator cs = cs.takeWhile (· != separator) :: others := by
  induction cs with
  | nil => exact ⟨[], rfl⟩
  | cons c cs ih =>
    obtain ⟨others, hothers⟩ := ih
    by_cases hc : c = separator
    · exact ⟨splitOn separator cs, by simp [splitOn, hc]⟩
    · refine ⟨others, ?_⟩
      rw [splitOn_cons_of_ne hc hothers, List.takeWhile_cons_of_pos (by simpa using hc)]

lemma separator_notMem {cs part : List α} (h : part ∈ splitOn separator cs) : separator ∉ part := by
  induction cs generalizing part with
  | nil =>
    have hpart : part = [] := by simpa [splitOn] using h
    simp [hpart]
  | cons c cs ih =>
    by_cases hc : c = separator
    · simp only [splitOn, hc, if_true, List.mem_cons] at h
      rcases h with rfl | h
      · simp
      · exact ih h
    · obtain ⟨first, others, hparts⟩ :=
        List.exists_cons_of_ne_nil (splitOn_ne_nil separator cs)
      rw [splitOn_cons_of_ne hc hparts, List.mem_cons] at h
      rcases h with rfl | h
      · have hfirst : separator ∉ first := ih (by simp [hparts])
        simp [Ne.symm hc, hfirst]
      · exact ih (by simp [hparts, h])

/-- Cutting parts that were joined gives the parts back, as long as no separator is in them. -/
lemma splitOn_joinWith {parts : List (List α)} (hne : parts ≠ [])
    (hparts : ∀ part ∈ parts, separator ∉ part) :
    splitOn separator (joinWith [separator] parts) = parts := by
  induction parts with
  | nil => exact absurd rfl hne
  | cons part rest ih =>
    cases rest with
    | nil => exact splitOn_of_notMem (hparts part List.mem_cons_self)
    | cons next rest =>
      have htail := ih (by simp) fun other hother => hparts other (List.mem_cons_of_mem part hother)
      rw [joinWith, List.append_assoc, List.singleton_append, splitOn_append, htail,
        splitOn_of_notMem (hparts part List.mem_cons_self), List.singleton_append]

lemma replaceFirst_append (old new rest : List Char) :
    replaceFirst old new (old ++ rest) = new ++ rest := by
  cases old with
  | nil => cases rest <;> simp [replaceFirst]
  | cons c cs =>
    rw [List.cons_append, replaceFirst, if_pos (by simp), ← List.cons_append, List.drop_left]

/-- A text is taken apart at its last separator in one way only. -/
lemma append_separator_inj {lead lead' last last' : List α}
    (h : lead ++ separator :: last = lead' ++ separator :: last') (hlast : separator ∉ last)
    (hlast' : separator ∉ last') : lead = lead' ∧ last = last' := by
  have hparts := congrArg (splitOn separator) h
  rw [splitOn_append, splitOn_append, splitOn_of_notMem hlast, splitOn_of_notMem hlast'] at hparts
  obtain ⟨hlead, hend⟩ := List.append_inj' hparts rfl
  have hjoin := congrArg (joinWith [separator]) hlead
  rw [joinWith_splitOn, joinWith_splitOn] at hjoin
  exact ⟨hjoin, by simpa using hend⟩

/-- A text is taken apart at its first separator in one way only. -/
lemma separator_append_inj {first first' rest rest' : List α}
    (h : first ++ separator :: rest = first' ++ separator :: rest') (hfirst : separator ∉ first)
    (hfirst' : separator ∉ first') : first = first' ∧ rest = rest' := by
  have hreverse := congrArg List.reverse h
  simp only [List.reverse_append, List.reverse_cons, List.append_assoc, List.singleton_append]
    at hreverse
  obtain ⟨hrest, hends⟩ := append_separator_inj hreverse (List.mem_reverse.not.mpr hfirst)
    (List.mem_reverse.not.mpr hfirst')
  exact ⟨List.reverse_inj.mp hends, List.reverse_inj.mp hrest⟩

lemma dot_mem_dotted (lead last : String) : '.' ∈ (lead ++ "." ++ last).toList := by
  simp

lemma dotted_inj {lead lead' last last' : String}
    (h : lead ++ "." ++ last = lead' ++ "." ++ last') (hlast : '.' ∉ last.toList)
    (hlast' : '.' ∉ last'.toList) : lead = lead' ∧ last = last' := by
  have hlist : lead.toList ++ '.' :: last.toList = lead'.toList ++ '.' :: last'.toList := by
    simpa using congrArg String.toList h
  obtain ⟨hlead, hend⟩ := append_separator_inj hlist hlast hlast'
  exact ⟨String.toList_inj.mp hlead, String.toList_inj.mp hend⟩

end LanguageServer.Text
