import LanguageServer.Proofs.File.Directory

/-!
# Directories that were made

A path that leads to a directory opens it, and so does a path whose directory was made just now
(`FileTree.opens_of_makeDirectories`).  Making a directory may succeed without making anything,
because it is there already; what it is good for is that afterwards the files in it can be had.
Once made it need not be made again (`FileTree.makeDirectories_again`).

The place that a path leads to is told by the path and the place that it begins at
(`FileTree.placeFrom_of_follow`).  In a file system, a path without pairs of dots that leads to a
file leads there through directories which are above the file and have to be there with it
(`FileTree.Rooted.file?_of_locate`).
-/

namespace LanguageServer

open Text

namespace FileTree

variable {tree made before after : FileTree} {path : Path} {place start : Place}
  {node : Option Node} {parts : List FileName} {touched : List Place}

/-! ## Following and leading -/

lemma leads_append (start : Place) (lead rest : List FileName) :
    tree.Leads start (lead ++ rest) ↔
      tree.Leads start lead ∧ tree.Leads (Path.placeFrom start lead) rest := by
  fun_induction Path.placeFrom start lead with
  | case1 start =>
    simp only [List.nil_append, Leads]
    exact ⟨fun h => ⟨h.directory, h⟩, And.right⟩
  | case2 start part lead hidle ih => simp [Leads, hidle, ih, and_assoc]
  | case3 start lead hidle ih => simp [Leads, hidle, ih, and_assoc]
  | case4 start part lead hidle habove ih => simp [Leads, hidle, habove, ih, and_assoc]

lemma Leads.end_directory (h : tree.Leads start parts) :
    tree.node? (Path.placeFrom start parts) = some .directory := by
  rw [← List.append_nil parts, leads_append] at h
  exact h.2

lemma leads_of_empty (hempty : ∀ part ∈ parts, part = [])
    (hstart : tree.node? start = some .directory) : tree.Leads start parts := by
  induction parts with
  | nil => exact hstart
  | cons part rest ih =>
    obtain rfl : part = [] := hempty part List.mem_cons_self
    simpa [Leads, hstart] using ih fun part hpart => hempty part (List.mem_cons_of_mem _ hpart)

lemma placeFrom_of_empty (hempty : ∀ part ∈ parts, part = []) (start : Place) :
    Path.placeFrom start parts = start := by
  induction parts with
  | nil => rfl
  | cons part rest ih =>
    obtain rfl : part = [] := hempty part List.mem_cons_self
    simpa [Path.placeFrom] using ih fun part hpart => hempty part (List.mem_cons_of_mem _ hpart)

/-- **Where a path leads is told by its parts and the place that it begins at.** -/
lemma placeFrom_of_follow (h : tree.follow start parts = .ok (place, node)) :
    place = Path.placeFrom start parts := by
  fun_induction follow tree start parts with
  | case1 start =>
    cases h
    rfl
  | case2 start part rest hstart hidle ih => rw [Path.placeFrom, if_pos hidle, ih h]
  | case3 start rest hstart hidle ih => rw [Path.placeFrom, if_neg hidle, if_pos rfl, ih h]
  | case4 => cases h
  | case5 start part rest hstart hidle habove hlimit next found hfound ih =>
    rw [Path.placeFrom, if_neg hidle, if_neg habove, ih h]
  | case6 start part rest hstart hidle habove hlimit next hnone hlast =>
    have hnext : next = place := (Prod.mk.inj (Except.ok.inj h)).1
    rw [Path.placeFrom, if_neg hidle, if_neg habove, placeFrom_of_empty (by simpa using hlast),
      ← hnext]
  | case7 => cases h
  | case8 => cases h
  | case9 => cases h

lemma place_of_locate (h : tree.locate path = .ok (place, node)) :
    place = tree.placeOf path := by
  obtain ⟨⟨⟩, -, hfollow⟩ := exists_of_bind_ok h
  exact placeFrom_of_follow hfollow

/-- Where a path leads to a directory, or to nothing that has become one, it opens. -/
lemma leads_of_follow (h : tree.follow start parts = .ok (place, node))
    (hevolves : Evolves touched tree made) (hplace : made.node? place = some .directory) :
    made.Leads start parts := by
  fun_induction follow tree start parts with
  | case1 start =>
    cases h
    exact hplace
  | case2 start part rest hstart hidle ih =>
    simp only [Leads, hidle, if_true]
    exact ⟨hevolves.directories start hstart, ih h⟩
  | case3 start rest hstart hidle ih =>
    simp only [Leads, hidle, if_true]
    exact ⟨hevolves.directories start hstart, ih h⟩
  | case4 => cases h
  | case5 start part rest hstart hidle habove hlimit next found hfound ih =>
    simp only [Leads, hidle, habove, if_false]
    exact ⟨hevolves.directories start hstart, Nat.not_lt.1 hlimit, ih h⟩
  | case6 start part rest hstart hidle habove hlimit next hnone hlast =>
    have hnext : next = place := (Prod.mk.inj (Except.ok.inj h)).1
    have hempty : ∀ part ∈ rest, part = [] := by simpa using hlast
    rw [← hnext] at hplace
    simp only [Leads, hidle, habove, if_false]
    exact ⟨hevolves.directories start hstart, Nat.not_lt.1 hlimit, leads_of_empty hempty hplace⟩
  | case7 => cases h
  | case8 => cases h
  | case9 => cases h

lemma Leads.short (h : tree.Leads start parts) : ∀ part ∈ parts, part.length ≤ FileName.limit := by
  fun_induction Path.placeFrom start parts with
  | case1 => simp
  | case2 start part rest hidle ih =>
    simp only [Leads, hidle, if_true] at h
    have hpart : part.length ≤ FileName.limit := by
      rcases (by simpa using hidle : part = [] ∨ part = Path.here) with rfl | rfl <;> decide
    exact List.forall_mem_cons.2 ⟨hpart, ih h.2⟩
  | case3 start rest hidle ih =>
    simp only [Leads, hidle, if_true] at h
    exact List.forall_mem_cons.2 ⟨by decide, ih h.2⟩
  | case4 start part rest hidle habove ih =>
    simp only [Leads, hidle, habove, if_false] at h
    exact List.forall_mem_cons.2 ⟨h.2.1, ih h.2.2⟩

/-! ## Directories that open -/

lemma opens_of_isDirectory (h : tree.isDirectory path = true) : tree.Opens path := by
  unfold isDirectory at h
  split at h
  next place hlocate =>
    obtain ⟨-, -, hfollow⟩ := exists_of_bind_ok hlocate
    exact leads_of_follow hfollow (.refl [] tree) (node?_of_follow hfollow).symm
  · cases h

/-- The parts of a path, and the empty ones after its last name. -/
lemma parts_eq_append (path : Path) :
    path.parts = (path.parts.reverse.dropWhile (·.isEmpty)).reverse ++
      (path.parts.reverse.takeWhile (·.isEmpty)).reverse := by
  rw [← List.reverse_append, List.takeWhile_append_dropWhile, List.reverse_reverse]

lemma opens_of_makeDirectory (h : tree.makeDirectory path = .ok made) : made.Opens path := by
  have hevolves := evolves_makeDirectory h
  obtain ⟨⟨⟩, hcheck, hparts⟩ := exists_of_bind_ok h
  rw [Opens, hevolves.start_eq]
  -- The parts after the last name are empty and ask for nothing.
  have hempty : ∀ part ∈ (path.parts.reverse.takeWhile (·.isEmpty)).reverse, part = [] := by
    intro part hpart
    simpa using List.all_eq_true.mp List.all_takeWhile part (List.mem_reverse.mp hpart)
  suffices hleads :
      made.Leads (tree.start path) (path.parts.reverse.dropWhile (·.isEmpty)).reverse by
    rw [parts_eq_append, leads_append]
    exact ⟨hleads, leads_of_empty hempty hleads.end_directory⟩
  dsimp only at hparts
  generalize (path.parts.reverse.dropWhile (·.isEmpty)).reverse = parts at hparts ⊢
  split at hparts
  · cases hparts
  next name hname =>
    obtain ⟨lead, rfl⟩ := List.getLast?_eq_some_iff.1 hname
    rw [List.dropLast_concat] at hparts
    obtain ⟨⟨start, node⟩, hfollow, hmake⟩ := exists_of_bind_ok hparts
    cases node with
    | none => cases hmake
    | some node =>
      cases node with
      | file file => cases hmake
      | directory =>
        simp only [makeIn] at hmake
        split at hmake
        · cases hmake
        · cases hmake
        next new hnew =>
          have hroot : new ≠ [] := by
            rintro rfl
            cases node?_of_follow hnew
          have hnode : made.node? new = some .directory := by
            rw [(commit_ok hmake).1, node?_set_self hroot]
          have hstart := hevolves.directories start (node?_of_follow hfollow).symm
          rw [leads_append, ← placeFrom_of_follow hfollow]
          exact ⟨leads_of_follow hfollow hevolves hstart,
            leads_of_follow hnew hevolves hnode⟩

lemma ancestors_eq_cons (path : Path) : ∃ above, path.ancestors = path :: above := by
  unfold Path.ancestors
  cases path.components.length <;> exact ⟨_, rfl⟩

/-- **A storage directory that was made, or was there already, opens.** -/
lemma opens_of_makeDirectories (hbytes : path.bytes ≠ [])
    (h : tree.makeDirectories path = (made, none)) : made.Opens path := by
  obtain ⟨above, habove⟩ := ancestors_eq_cons path
  rw [makeDirectories, habove, makeChain, if_neg hbytes] at h
  split at h
  next hmade =>
    cases h
    exact opens_of_makeDirectory hmade
  · split at h
    · cases h
    · split at h
      next hmade =>
        cases h
        exact opens_of_makeDirectory hmade
      · simp only [Prod.mk.injEq, ite_eq_left_iff, reduceCtorEq, imp_false, not_not] at h
        rw [← h.1]
        exact opens_of_isDirectory h.2
  · simp only [Prod.mk.injEq, ite_eq_left_iff, reduceCtorEq, imp_false, not_not] at h
    rw [← h.1]
    exact opens_of_isDirectory h.2

/-! ## Directories that are there already -/

lemma Leads.follow (h : tree.Leads start parts) :
    tree.follow start parts = .ok (Path.placeFrom start parts, some .directory) := by
  fun_induction Path.placeFrom start parts with
  | case1 start => rw [FileTree.follow, h.directory]
  | case2 start part rest hidle ih =>
    simp only [Leads, hidle, if_true] at h
    simp only [FileTree.follow, h.1, hidle, if_true]
    exact ih h.2
  | case3 start rest hidle ih =>
    simp only [Leads, hidle, if_true] at h
    simp only [FileTree.follow, h.1, hidle, if_true]
    exact ih h.2
  | case4 start part rest hidle habove ih =>
    simp only [Leads, hidle, habove, if_false] at h
    have hlimit : ¬ FileName.limit < part.length := Nat.not_lt.2 h.2.1
    simp only [FileTree.follow, h.1, hidle, habove, hlimit, if_false, h.2.2.directory]
    exact ih h.2.2

lemma isDirectory_of_opens (hcheck : check path = .ok ()) (h : tree.Opens path) :
    tree.isDirectory path = true := by
  rw [isDirectory, locate, hcheck]
  simp only [bind, Except.bind, Leads.follow h]

/-- A directory that is there is not made. -/
lemma makeDirectory_of_opens (hcheck : check path = .ok ()) (h : tree.Opens path) :
    tree.makeDirectory path = .error .alreadyExists := by
  rw [Opens, parts_eq_append, leads_append] at h
  rw [makeDirectory, hcheck]
  simp only [bind, Except.bind]
  replace h := h.1
  generalize (path.parts.reverse.dropWhile (·.isEmpty)).reverse = parts at h ⊢
  split
  · rfl
  next name hname =>
    obtain ⟨lead, rfl⟩ := List.getLast?_eq_some_iff.1 hname
    rw [leads_append] at h
    rw [List.dropLast_concat, h.1.follow]
    simp only [makeIn, h.2.follow]

lemma makeDirectories_of_opens (hcheck : check path = .ok ()) (h : tree.Opens path) :
    tree.makeDirectories path = (tree, none) := by
  obtain ⟨above, habove⟩ := ancestors_eq_cons path
  rw [makeDirectories, habove, makeChain, makeDirectory_of_opens hcheck h]
  simp [isDirectory_of_opens hcheck h]

lemma check_of_makeDirectory (h : tree.makeDirectory path = .ok made) : check path = .ok () := by
  obtain ⟨⟨⟩, hcheck, -⟩ := exists_of_bind_ok h
  exact hcheck

lemma check_of_isDirectory (h : tree.isDirectory path = true) : check path = .ok () := by
  unfold isDirectory at h
  split at h
  next place hlocate =>
    obtain ⟨⟨⟩, hcheck, -⟩ := exists_of_bind_ok hlocate
    exact hcheck
  · cases h

/-- A path whose directory was made is one that a file system follows, unless it is empty. -/
lemma check_of_makeDirectories (hbytes : path.bytes ≠ [])
    (h : tree.makeDirectories path = (made, none)) : check path = .ok () := by
  obtain ⟨above, habove⟩ := ancestors_eq_cons path
  rw [makeDirectories, habove, makeChain, if_neg hbytes] at h
  split at h
  next hmade => exact check_of_makeDirectory hmade
  · split at h
    · cases h
    · split at h
      next hmade => exact check_of_makeDirectory hmade
      · simp only [Prod.mk.injEq, ite_eq_left_iff, reduceCtorEq, imp_false, not_not] at h
        exact check_of_isDirectory h.2
  · simp only [Prod.mk.injEq, ite_eq_left_iff, reduceCtorEq, imp_false, not_not] at h
    exact check_of_isDirectory h.2

/-- **A directory that was made need not be made again**, whatever became of files since. -/
lemma makeDirectories_again (h : tree.makeDirectories path = (made, none))
    (hevolves : Evolves touched made after) : after.makeDirectories path = (after, none) := by
  by_cases hbytes : path.bytes = []
  · obtain ⟨above, habove⟩ := ancestors_eq_cons path
    rw [makeDirectories, habove, makeChain, if_pos hbytes]
  · exact makeDirectories_of_opens (check_of_makeDirectories hbytes h)
      ((opens_of_makeDirectories hbytes h).evolve hevolves)

/-! ## Files that were in reach -/

/-- **A path without pairs of dots that opens in one tree** reaches what lies in its directory in
every file system. -/
lemma Rooted.reaches_of_opens (hrooted : before.Rooted) (habove : Path.above ∉ path.parts)
    (hopens : after.Opens path) : before.Reaches path :=
  hrooted.leads_or_vacant habove hopens.short

/-- Without pairs of dots the way goes down only. -/
lemma exists_below_of_follow (habove : Path.above ∉ parts)
    (h : tree.follow start parts = .ok (place, node)) : ∃ below, place = start ++ below := by
  rw [placeFrom_of_follow h]
  exact placeFrom_of_notMem_above habove start

lemma Rooted.directory_above (hrooted : tree.Rooted) {below : List FileName} (hbelow : below ≠ [])
    (h : tree.node? (start ++ below) ≠ none) : tree.node? start = some .directory := by
  by_contra hstart
  exact h (hrooted.node?_eq_none hstart hbelow)

/-- A file to which the parts lead in one tree is found by them in a file system that has it too,
because the way leads through directories above the file. -/
lemma Rooted.follow_file (hrooted : before.Rooted) {file : File} (habove : Path.above ∉ parts)
    (hfollow : after.follow start parts = .ok (place, some (.file file)))
    (hfile : before.node? place = some (.file file)) :
    before.follow start parts = .ok (place, some (.file file)) := by
  have hsome : before.node? place ≠ none := by simp [hfile]
  fun_induction follow after start parts with
  | case1 start =>
    obtain ⟨rfl, -⟩ := Prod.mk.inj (Except.ok.inj hfollow)
    rw [follow, hfile]
  | case2 start part rest hstart hidle ih =>
    have hrest : Path.above ∉ rest := fun h => habove (List.mem_cons_of_mem _ h)
    obtain ⟨below, hbelow⟩ := exists_below_of_follow hrest hfollow
    have hne : below ≠ [] := by
      rintro rfl
      rw [List.append_nil] at hbelow
      rw [← hbelow, ← node?_of_follow hfollow] at hstart
      cases hstart
    have hbefore := hrooted.directory_above hne (hbelow ▸ hsome)
    simp only [follow, hbefore, hidle, if_true]
    exact ih hrest hfollow
  | case3 start rest => exact absurd List.mem_cons_self habove
  | case4 => cases hfollow
  | case5 start part rest hstart hidle hpart hlimit next found hfound ih =>
    have hrest : Path.above ∉ rest := fun h => habove (List.mem_cons_of_mem _ h)
    obtain ⟨below, hbelow⟩ := exists_below_of_follow hrest hfollow
    have hbefore : before.node? start = some .directory := by
      refine hrooted.directory_above (List.cons_ne_nil part below) ?_
      rwa [List.append_cons, ← hbelow]
    obtain ⟨standing, hnext⟩ : ∃ standing, before.node? (start ++ [part]) = some standing := by
      by_cases hend : below = []
      · rw [hend, List.append_nil] at hbelow
        exact ⟨_, hbelow ▸ hfile⟩
      · exact ⟨_, hrooted.directory_above hend (hbelow ▸ hsome)⟩
    simp only [follow, hbefore, hidle, hpart, hlimit, hnext, if_false]
    exact ih hrest hfollow
  | case6 => simp at hfollow
  | case7 => cases hfollow
  | case8 => cases hfollow
  | case9 => cases hfollow

/-- **A file that a path without pairs of dots leads to in one tree** is found by it in every file
system with the same working directory that has the file at the same place. -/
lemma Rooted.file?_of_locate (hrooted : before.Rooted) {file : File}
    (hdirectory : after.workingDirectory = before.workingDirectory)
    (habove : Path.above ∉ path.parts)
    (hlocate : after.locate path = .ok (place, some (.file file)))
    (hfile : before.node? place = some (.file file)) : before.file? path = some file := by
  obtain ⟨⟨⟩, hcheck, hfollow⟩ := exists_of_bind_ok hlocate
  have hbefore := hrooted.follow_file habove hfollow hfile
  rw [start, hdirectory, ← start] at hbefore
  have hlocate : before.locate path = .ok (place, some (.file file)) := by
    rw [locate, hcheck]
    exact hbefore
  exact (FileTree.file?_of_locate hlocate file).2 hfile

end FileTree

end LanguageServer
