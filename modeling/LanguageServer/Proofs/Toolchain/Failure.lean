import Mathlib.Tactic.Common
import LanguageServer.Proofs.Toolchain.Install

/-!
# What is written by an installation that fails

An installation has two parts.  As long as it looks for the release and downloads it, it writes
nothing: whatever goes wrong there, and whenever it is stopped, the file system is the same as
before.  Then it makes the storage directory and puts the binary into its place by way of a partial
download.

`Toolchain.install_failure_keeps_files` is about a failure in either part.  If the storage directory
could be made and the binary is not in its place all the same, then one of three steps has failed
(`Toolchain.Misplaced`): the partial download was not written in full, it was not made executable,
or it was not moved.  Nothing is left of it then, and every other file is what it was.
-/

namespace LanguageServer

open Text FileTree

namespace FileTree

/-- The file of a path is the same in both trees.  Where the path can be followed in the first one,
it leads to the same file in the second one, or to none in both.  Where it cannot, because a
directory on the way is missing, it leads in the second one to no file that the first one does not
have. -/
structure SameFile (before after : FileTree) (path : Path) : Prop where
  followed : ∀ found, before.locate path = .ok found → after.file? path = before.file? path
  old : ∀ file, after.file? path = some file →
    before.node? (before.placeOf path) = some (.file file)

variable {before after : FileTree} {storage : Path} {name : FileName} {names : List FileName}

lemma EvolvesIn.sameFile (h : EvolvesIn storage names before after) (hplain : name.Plain)
    (hname : name ∉ names) : SameFile before after (storage.child name) := by
  constructor
  · intro found hfound
    obtain ⟨-, hopens, -⟩ := (locate_child hplain found.1 found.2).1 hfound
    exact h.file?_child (.inl hopens) hplain hname
  · intro file hfile
    obtain ⟨hcheck, hopens, hnode⟩ := (FileTree.file?_child hplain file).1 hfile
    have hlocate := (locate_child hplain _ _).2 ⟨hcheck, hopens, rfl, rfl⟩
    rw [← Evolves.placeOf_eq h, ← place_of_locate hlocate, Evolves.placeOf_eq h]
    exact (h.file_iff hname file).1 hnode

end FileTree

namespace Toolchain

variable {toolchain : Toolchain} {files made after : FileTree} {content : Content} {tag : String}

/-! ## The partial download -/

/-- A partial download that is still there cannot be removed. -/
lemma remove_dropPartial {file : File}
    (h : (toolchain.dropPartial files).nodeIn toolchain.storage partialName =
      some (.file file)) :
    ∃ cause, (toolchain.dropPartial files).remove toolchain.partialDownload = .error cause := by
  unfold dropPartial at h ⊢
  split at h
  next removed hremove =>
    obtain ⟨-, hgone⟩ := remove_child plain_partialName hremove
    cases hgone.symm.trans h
  next cause hremove => exact ⟨cause, hremove⟩

/-- The step at which a binary is not put into its place, where there is a directory for it, and
the files after that step. -/
inductive Misplaced (toolchain : Toolchain) (made : FileTree) (content : Content)
    (cause : FileError) : FileTree → Prop where
  | unwritten {written : FileTree}
    (hwrite : made.write toolchain.partialDownload content = (written, some cause)) :
    Misplaced toolchain made content cause written
  | unmarked {written : FileTree}
    (hwrite : made.write toolchain.partialDownload content = (written, none))
    (hmark : written.makeExecutable toolchain.partialDownload = .error cause) :
    Misplaced toolchain made content cause written
  | unmoved {written : FileTree}
    (hwritten : writeExecutable made toolchain.partialDownload content = (written, none))
    (hmove : written.rename toolchain.partialDownload toolchain.managed = .error cause) :
    Misplaced toolchain made content cause written

/-- After each of these steps the partial download is removed. -/
lemma misplaced_of_place_error {e : FileError}
    (h : toolchain.place files content = (after, some e))
    (hmade : files.makeDirectories toolchain.storage = (made, none)) :
    ∃ written, Misplaced toolchain made content e written ∧
      after = toolchain.dropPartial written := by
  simp only [place, hmade] at h
  split at h
  next written _ hwritten =>
    cases h
    refine ⟨written, ?_, rfl⟩
    unfold writeExecutable at hwritten
    split at hwritten
    next hwrite =>
      cases hwritten
      exact .unwritten hwrite
    next hwrite =>
      split at hwritten
      next hmark =>
        cases hwritten
        exact .unmarked hwrite hmark
      · cases hwritten
  next written hwritten =>
    split at h
    next hmove =>
      cases h
      exact ⟨written, .unmoved hwritten hmove, rfl⟩
    · cases h

/-! ## Failures -/

/-- **Nothing is written before the download is complete, and nothing but directories is left of a
binary that could not be put into its place.**  A failure that is not about a file changes nothing
in the file system.  When there is a storage directory, or one could be made, a failure about a file
is one of writing the binary, making it executable or moving it into its place.  The installed
compiler and the recorded state are then the same files as before, and so is every other file but
the partial download.  No partial download is left, unless removing it fails too. -/
theorem install_failure_keeps_files (toolchain : Toolchain) (tag : String) (s s' : Surroundings)
    (e : InstallError) (hrun : (toolchain.install tag).run s = (.error e, s')) :
    ((∀ cause, e ≠ .file cause) → (∀ cause, e ≠ .record cause) → s'.files = s.files) ∧
      ∀ cause made, e = .file cause →
        s.files.makeDirectories toolchain.storage = (made, none) →
        (∃ content written, Misplaced toolchain made content cause written) ∧
        (SameFile s.files s'.files toolchain.managed ∧
          SameFile s.files s'.files (InstallState.file toolchain.storage)) ∧
        (∀ place, place ≠ s.files.placeOf toolchain.storage ++ [partialName] → ∀ file,
          s'.files.node? place = some (.file file) ↔ s.files.node? place = some (.file file)) ∧
        ∀ file, s'.files.nodeIn toolchain.storage partialName = some (.file file) →
          ∃ cause, s'.files.remove toolchain.partialDownload = .error cause := by
  have hinstallation := installation_of_install hrun
  generalize s'.files = files at hinstallation ⊢
  cases hinstallation with
  | refused hfetch =>
    refine ⟨fun _ _ => rfl, fun cause made hcause => ?_⟩
    exact absurd hcause ((fetch_error hfetch).1 cause)
  | unrecorded hfetch hplace hrecord =>
    exact ⟨fun _ hrecord => absurd rfl (hrecord _), fun cause made hcause => by cases hcause⟩
  | unplaced hfetch hplace =>
    refine ⟨fun hfile => absurd rfl (hfile _), fun cause made hcause hmade => ?_⟩
    cases hcause
    have hevolves := evolves_of_place_error hplace
    obtain ⟨written, hmisplaced, rfl⟩ := misplaced_of_place_error hplace hmade
    refine ⟨⟨_, written, hmisplaced⟩, ⟨hevolves.sameFile plain_binaryName (by decide),
      hevolves.sameFile InstallState.plain_fileName (by decide)⟩, ?_,
      fun file => remove_dropPartial⟩
    intro place hplace file
    exact Evolves.file_iff hevolves (by simpa using hplace) file

/-- A release is installed and recorded, the rest of an earlier download is there, and a newer
release is on offer.  The medium fails at some changes, and half of what is written then stays. -/
def failingAt (fails : FileChange → Bool) : Surroundings :=
  let s := offering "v2" [(["store"], .directory),
    (["store", "aelys"], .file ⟨.text "v1", true⟩),
    (["store", "aelys.download"], .file ⟨.text "v1", false⟩),
    (["store", "state.json"], .file ⟨.text (InstallState.text ⟨some "v1", none⟩), false⟩)]
  { s with files := { s.files with
      medium :=
        ⟨fun change =>
            if fails change then some (.other "Input/output error (os error 5)") else none,
          fun _ => .text "v"⟩ } }

/-- The steps fail one after the other, and nothing is left of the download.  When it can be neither
written nor removed, half of it stays.  When the download itself is stopped nothing has changed. -/
theorem install_failure_keeps_files_at_every_step :
    let toolchain := atStorage "/store"
    let run := (toolchain.install latestTag).run
    let fill : FileChange → Bool := fun change => change matches .fill _ _
    let mark : FileChange → Bool := fun change => change matches .makeExecutable _
    let move : FileChange → Bool := fun change => change matches .rename _ _
    let keep : FileChange → Bool := fun change => change matches .fill _ _ | .remove _
    let stopped : Surroundings :=
      { failingAt fill with interrupted := fun wait => wait == .request .download }
    (∀ fails ∈ [fill, mark, move],
      SameFile (failingAt fails).files (run (failingAt fails)).2.files toolchain.managed ∧
        (run (failingAt fails)).2.files.isFile toolchain.partialDownload = false) ∧
    ((run (failingAt keep)).2.files.readText? toolchain.partialDownload = some "v" ∧
      ∃ cause, (run (failingAt keep)).2.files.remove toolchain.partialDownload = .error cause) ∧
    (run stopped).1 = .error .cancelled ∧ (run stopped).2.files = stopped.files := by
  intro toolchain run fill mark move keep stopped
  have hresult : ∀ fails ∈ [fill, mark, move, keep], (run (failingAt fails)).1 =
      .error (.file (.other "Input/output error (os error 5)")) := by
    simp only [List.forall_mem_cons]
    refine ⟨?_, ?_, ?_, ?_, by simp⟩ <;> decide +kernel
  have hfailure := fun fails (hfails : fails ∈ [fill, mark, move, keep]) =>
    (install_failure_keeps_files toolchain latestTag (failingAt fails) _ _
      (Prod.ext (hresult fails hfails) rfl)).2 _ _ rfl (Prod.ext rfl rfl)
  have hgone : ∀ fails ∈ [fill, mark, move],
      (run (failingAt fails)).2.files.isFile toolchain.partialDownload = false := by
    simp only [List.forall_mem_cons]
    refine ⟨?_, ?_, ?_, by simp⟩ <;> decide +kernel
  have hcancelled : (run stopped).1 = .error .cancelled := by decide +kernel
  refine ⟨fun fails hfails => ⟨?_, hgone fails hfails⟩, ⟨by decide +kernel, ?_⟩, hcancelled, ?_⟩
  · obtain ⟨-, ⟨hbinary, -⟩, -⟩ :=
      hfailure fails (List.mem_append_left [keep] hfails)
    exact hbinary
  · obtain ⟨-, -, -, hleft⟩ := hfailure keep (by simp)
    exact hleft ⟨.text "v", false⟩ rfl
  · obtain ⟨hfetch, -⟩ := install_failure_keeps_files toolchain latestTag stopped _ _
      (Prod.ext hcancelled rfl)
    exact hfetch (by simp) (by simp)

end Toolchain

end LanguageServer
