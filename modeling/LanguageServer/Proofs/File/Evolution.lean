import Mathlib.Tactic.Common
import LanguageServer.File.Tree

/-!
# How a file tree changes

A file tree is looked at through `FileTree.node?`, which says what stands at each place.  This file
says for every operation what it does to this view.

Most of what later files need is that an operation leaves other places alone.  `Evolves touched`
says it of two trees: outside the places in `touched` the second tree has what the first one had,
and perhaps directories where nothing stood; no directory is lost anywhere, and the process still
works in the same directory and on the same medium.  It is reflexive and transitive, and every
operation evolves the tree at the places that it names, whether it succeeds or fails
(`FileTree.evolves_write` and the lemmas after it); making directories touches no place at all
(`FileTree.evolves_makeDirectories`).
-/

namespace LanguageServer

namespace FileTree

variable {tree written made : FileTree} {place other : Place} {path : Path} {node : Option Node}

/-! ## The view -/

lemma node?_set_self (hplace : place ≠ []) (node : Node) :
    (tree.set place node).node? place = some node := by
  simp [node?, set, hplace]

lemma node?_erase_self (hplace : place ≠ []) : (tree.erase place).node? place = none := by
  simp [node?, erase, hplace]

lemma node?_erase_of_ne (hother : other ≠ place) :
    (tree.erase place).node? other = tree.node? other := by
  have hsame : ∀ entry : Place × Node,
      decide (entry.1 ≠ place ∧ entry.1 = other) = decide (entry.1 = other) := by
    intro entry
    rw [decide_eq_decide]
    exact ⟨And.right, fun h => ⟨h ▸ hother, h⟩⟩
  simp only [node?, erase, List.find?_filter, decide_eq_true_eq, hsame]

lemma node?_set_of_ne (hother : other ≠ place) (node : Node) :
    (tree.set place node).node? other = tree.node? other := by
  have herase : (tree.set place node).node? other = (tree.erase place).node? other := by
    simp only [node?, set, erase, List.find?_cons, Ne.symm hother, decide_false]
  rw [herase, node?_erase_of_ne hother]

/-! ## Evolution -/

/-- The second tree is the first one with changes at the touched places and with new directories
where nothing stood. -/
structure Evolves (touched : List Place) (before after : FileTree) : Prop where
  workingDirectory : after.workingDirectory = before.workingDirectory
  medium : after.medium = before.medium
  directories : ∀ place, before.node? place = some .directory →
    after.node? place = some .directory
  others : ∀ place, place ∉ touched → after.node? place = before.node? place ∨
    before.node? place = none ∧ after.node? place = some .directory

namespace Evolves

variable {touched more : List Place} {before middle after : FileTree}

lemma refl (touched : List Place) (tree : FileTree) : Evolves touched tree tree :=
  ⟨rfl, rfl, fun _ h => h, fun _ _ => .inl rfl⟩

lemma mono (h : Evolves touched before after) (hmore : touched ⊆ more) :
    Evolves more before after :=
  ⟨h.workingDirectory, h.medium, h.directories,
    fun place hplace => h.others place fun hmem => hplace (hmore hmem)⟩

lemma trans (h₁ : Evolves touched before middle) (h₂ : Evolves touched middle after) :
    Evolves touched before after := by
  refine ⟨h₂.workingDirectory.trans h₁.workingDirectory, h₂.medium.trans h₁.medium,
    fun place h => h₂.directories place (h₁.directories place h), ?_⟩
  intro place hplace
  rcases h₁.others place hplace with h | ⟨hnone, hdirectory⟩
  · rw [← h]
    exact h₂.others place hplace
  · exact .inr ⟨hnone, h₂.directories place hdirectory⟩

/-- **A file outside the touched places stays what it is, and none appears there.** -/
lemma file_iff (h : Evolves touched before after) (hplace : place ∉ touched) (file : File) :
    after.node? place = some (.file file) ↔ before.node? place = some (.file file) := by
  rcases h.others place hplace with h | ⟨hnone, hdirectory⟩
  · rw [h]
  · simp [hnone, hdirectory]

end Evolves

lemma evolves_set_file (hplace : tree.node? place ≠ some .directory) (file : File) :
    Evolves [place] tree (tree.set place (.file file)) := by
  refine ⟨rfl, rfl, fun other h => ?_, fun other hother => .inl ?_⟩
  · have hne : other ≠ place := by
      rintro rfl
      exact hplace h
    rwa [node?_set_of_ne hne]
  · exact node?_set_of_ne (by simpa using hother) _

lemma evolves_erase (hplace : tree.node? place ≠ some .directory) :
    Evolves [place] tree (tree.erase place) := by
  refine ⟨rfl, rfl, fun other h => ?_, fun other hother => .inl ?_⟩
  · have hne : other ≠ place := by
      rintro rfl
      exact hplace h
    rwa [node?_erase_of_ne hne]
  · exact node?_erase_of_ne (by simpa using hother)

lemma evolves_set_directory (hplace : tree.node? place = none) :
    Evolves [] tree (tree.set place .directory) := by
  have hroot : place ≠ [] := by
    rintro rfl
    cases hplace
  refine ⟨rfl, rfl, fun other h => ?_, fun other _ => ?_⟩
  · have hne : other ≠ place := by
      rintro rfl
      simp [hplace] at h
    rwa [node?_set_of_ne hne]
  · by_cases hother : other = place
    · subst hother
      exact .inr ⟨hplace, node?_set_self hroot _⟩
    · exact .inl (node?_set_of_ne hother _)

/-! ## Following a path -/

/-- What `follow` reports is what stands at the place that it reports. -/
lemma node?_of_follow {start : Place} {parts : List FileName}
    (h : tree.follow start parts = .ok (place, node)) : node = tree.node? place := by
  fun_induction follow tree start parts with
  | case1 start =>
    simp only [Except.ok.injEq, Prod.mk.injEq] at h
    rw [← h.1, ← h.2]
  | case2 start part rest hstart hidle ih => exact ih h
  | case3 start rest hstart hidle ih => exact ih h
  | case4 => cases h
  | case5 start part rest hstart hidle habove hlimit next found hfound ih => exact ih h
  | case6 start part rest hstart hidle habove hlimit next hnone hlast =>
    simp only [Except.ok.injEq, Prod.mk.injEq] at h
    rw [← h.1, ← h.2, hnone]
  | case7 => cases h
  | case8 => cases h
  | case9 => cases h

/-- A step after another one succeeds only if both do. -/
lemma exists_of_bind_ok {α β : Type} {first : Except FileError α} {next : α → Except FileError β}
    {result : β} (h : first >>= next = .ok result) :
    ∃ value, first = .ok value ∧ next value = .ok result := by
  cases first with
  | error e => cases h
  | ok value => exact ⟨value, rfl, h⟩

lemma locate_ok (h : tree.locate path = .ok (place, node)) :
    check path = .ok () ∧ tree.node? place = node := by
  obtain ⟨⟨⟩, hcheck, hfollow⟩ := exists_of_bind_ok h
  exact ⟨hcheck, (node?_of_follow hfollow).symm⟩

/-! ## Files -/

lemma file?_of_locate (h : tree.locate path = .ok (place, node)) (file : File) :
    tree.file? path = some file ↔ tree.node? place = some (.file file) := by
  rw [file?, h, (locate_ok h).2]
  cases node with
  | none => simp
  | some found => cases found <;> simp

lemma commit_ok {change : FileChange} {changed : FileTree}
    (h : tree.commit change changed = .ok made) :
    made = changed ∧ tree.medium.failure? change = none := by
  unfold commit at h
  split at h
  · cases h
  next hsound =>
    cases h
    exact ⟨rfl, hsound⟩

/-- Writing to a file touches the file alone, also when it fails half-way. -/
lemma evolves_fill (hplace : tree.node? place ≠ some .directory) (content : Content)
    (executable : Bool) : Evolves [place] tree (tree.fill place content executable).1 := by
  unfold fill
  split
  · exact .refl _ _
  · split
    · exact evolves_set_file hplace _
    · exact evolves_set_file hplace _

/-- **Writing touches the place of the path alone**, whether or not it succeeds. -/
lemma evolves_write (h : tree.locate path = .ok (place, node)) (content : Content) :
    Evolves [place] tree (tree.write path content).1 := by
  have hnode := (locate_ok h).2
  match node with
  | none =>
    rw [write, h]
    exact evolves_fill (by simp [hnode]) content false
  | some .directory =>
    rw [write, h]
    exact .refl _ _
  | some (.file file) =>
    rw [write, h]
    exact evolves_fill (by simp [hnode]) content file.executable

lemma fill_ok {content : Content} {executable : Bool}
    (h : tree.fill place content executable = (written, none)) :
    written = tree.set place (.file ⟨content, executable⟩) ∧
      tree.medium.failure? (.openFile place) = none ∧
      tree.medium.failure? (.fill place content) = none := by
  unfold fill at h
  split at h
  · cases h
  next hopen =>
    split at h
    · cases h
    next hfill =>
      cases h
      exact ⟨rfl, hopen, hfill⟩

/-- Writing that succeeds puts the content at the place of the path, where no directory stood. -/
lemma write_ok {content : Content} (h : tree.write path content = (written, none)) :
    ∃ place node executable, tree.locate path = .ok (place, node) ∧ node ≠ some .directory ∧
      written = tree.set place (.file ⟨content, executable⟩) ∧
      tree.medium.failure? (.openFile place) = none ∧
      tree.medium.failure? (.fill place content) = none := by
  unfold write at h
  split at h
  · cases h
  · cases h
  next place file hlocate => exact ⟨place, _, file.executable, hlocate, by simp, fill_ok h⟩
  next place hlocate => exact ⟨place, none, false, hlocate, by simp, fill_ok h⟩

/-- Making a file executable changes nothing else about it; a directory is left alone. -/
lemma makeExecutable_ok (h : tree.makeExecutable path = .ok made) :
    ∃ place node, tree.locate path = .ok (place, node) ∧
      (node = some .directory ∧ made = tree ∨
        ∃ file : File, node = some (.file file) ∧
          made = tree.set place (.file { file with executable := true })) := by
  obtain ⟨⟨place, node⟩, hlocate, hmade⟩ := exists_of_bind_ok h
  match node with
  | none => cases hmade
  | some .directory => exact ⟨place, _, hlocate, .inl ⟨rfl, (commit_ok hmade).1⟩⟩
  | some (.file file) => exact ⟨place, _, hlocate, .inr ⟨file, rfl, (commit_ok hmade).1⟩⟩

lemma rename_ok {source target : Path} (h : tree.rename source target = .ok made) :
    ∃ old new node file, tree.locate source = .ok (old, some (.file file)) ∧
      tree.locate target = .ok (new, node) ∧ node ≠ some .directory ∧
      made = (tree.erase old).set new (.file file) ∧
      tree.medium.failure? (.rename old new) = none := by
  obtain ⟨⟨old, found⟩, hsource, hmoved⟩ := exists_of_bind_ok h
  match found with
  | none => cases hmoved
  | some .directory => cases hmoved
  | some (.file file) =>
    obtain ⟨⟨new, node⟩, htarget, hmade⟩ := exists_of_bind_ok hmoved
    match node with
    | none => exact ⟨old, new, none, file, hsource, htarget, by simp, commit_ok hmade⟩
    | some .directory => cases hmade
    | some (.file replaced) =>
      exact ⟨old, new, _, file, hsource, htarget, by simp, commit_ok hmade⟩

lemma remove_ok (h : tree.remove path = .ok made) :
    ∃ place file, tree.locate path = .ok (place, some (.file file)) ∧ made = tree.erase place := by
  obtain ⟨⟨place, node⟩, hlocate, hmade⟩ := exists_of_bind_ok h
  match node with
  | none => cases hmade
  | some .directory => cases hmade
  | some (.file file) => exact ⟨place, file, hlocate, (commit_ok hmade).1⟩

/-! ## Directories -/

lemma evolves_makeDirectory (h : tree.makeDirectory path = .ok made) : Evolves [] tree made := by
  obtain ⟨-, -, hparts⟩ := exists_of_bind_ok h
  dsimp only at hparts
  split at hparts
  · cases hparts
  next name hname =>
    obtain ⟨⟨start, node⟩, hfollow, hmake⟩ := exists_of_bind_ok hparts
    match node with
    | none => cases hmake
    | some (.file file) => cases hmake
    | some .directory =>
      simp only [makeIn] at hmake
      split at hmake
      · cases hmake
      · cases hmake
      next new hnew =>
        rw [(commit_ok hmake).1]
        exact evolves_set_directory (node?_of_follow hnew).symm

/-- **Making directories keeps everything that is there**, whether or not it succeeds. -/
lemma evolves_makeDirectories (tree : FileTree) (path : Path) :
    Evolves [] tree (tree.makeDirectories path).1 := by
  unfold makeDirectories
  -- The chain makes the directories above a path first, so the induction is on the chain.
  fun_induction makeChain tree path.ancestors with
  | case1 => exact .refl _ _
  | case2 => exact .refl _ _
  | case3 path above hpath made hmade => exact evolves_makeDirectory hmade
  | case4 path above hpath hmissing made e hchain ih =>
    rw [hchain] at ih
    exact ih
  | case5 path above hpath hmissing made hchain complete hcomplete ih =>
    rw [hchain] at ih
    exact ih.trans (evolves_makeDirectory hcomplete)
  | case6 path above hpath hmissing made hchain e hrefused ih =>
    rw [hchain] at ih
    exact ih
  | case7 => exact .refl _ _

end FileTree

end LanguageServer
