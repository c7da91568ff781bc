import Mathlib.Tactic.Common
import LanguageServer.Proofs.Toolchain.State
import LanguageServer.Toolchain.Install

/-!
# What an installation leaves behind

`Toolchain.Installation` lists the ways in which an installation can go: it ends before anything is
written, or with the binary not in its place, or with the binary in its place and not recorded, or
well.  Everything else in this file follows from what the two steps that write do to the storage
directory: putting the binary into its place, and recording it.

The steps are in this order, so a failure of the second one does not undo the first:
`Toolchain.install_error_effect` says that the recorded state survives every failure, and the binary
every failure but this one.
-/

namespace LanguageServer

open Text FileTree

namespace Toolchain

variable {toolchain : Toolchain} {files after : FileTree} {content : Content} {tag : String}
  {s s' : Surroundings}

/-! ## Putting the binary into its place -/

/-- The name of the installed compiler. -/
def binaryName : FileName := encode "aelys".toList

/-- The name that a compiler is written to first. -/
def partialName : FileName := encode "aelys.download".toList

lemma plain_binaryName : binaryName.Plain := by constructor <;> decide

lemma plain_partialName : partialName.Plain := by constructor <;> decide

lemma evolves_dropPartial (toolchain : Toolchain) (files : FileTree) :
    EvolvesIn toolchain.storage [partialName] files (toolchain.dropPartial files) := by
  unfold dropPartial
  split
  next removed hremove => exact (remove_child plain_partialName hremove).1
  · exact .refl _ _

/-- Writing the partial download touches nothing else; if it succeeds, the download is there and may
be run. -/
lemma writeExecutable_partial {written : FileTree} {cause : Option FileError}
    (h : writeExecutable files toolchain.partialDownload content = (written, cause)) :
    EvolvesIn toolchain.storage [partialName] files written ∧
      (cause = none →
        written.nodeIn toolchain.storage partialName = some (.file ⟨content, true⟩)) := by
  unfold writeExecutable at h
  split at h
  next plain e hwrite =>
    cases h
    exact ⟨evolves_write_child plain_partialName hwrite, fun h => by cases h⟩
  next plain hwrite =>
    have hevolves : EvolvesIn toolchain.storage [partialName] files plain :=
      evolves_write_child plain_partialName hwrite
    obtain ⟨executable, hfile⟩ := nodeIn_of_write plain_partialName hwrite
    split at h
    · cases h
      exact ⟨hevolves, fun h => by cases h⟩
    next made hmake =>
      cases h
      obtain ⟨hmade, hexecutable⟩ := makeExecutable_child plain_partialName hfile hmake
      exact ⟨hevolves.trans hmade, fun _ => hexecutable⟩

lemma evolvesIn_makeStorage {made : FileTree} {cause : Option FileError} (names : List FileName)
    (h : files.makeDirectories toolchain.storage = (made, cause)) :
    EvolvesIn toolchain.storage names files made := by
  have hmade := evolves_makeDirectories files toolchain.storage
  rw [h] at hmade
  exact hmade.mono (List.nil_subset _)

/-- **A binary that was put into its place** is there with its content and may be run, and the
partial download is gone. -/
lemma place_ok (h : toolchain.place files content = (after, none)) :
    EvolvesIn toolchain.storage [partialName, binaryName] files after ∧
      after.nodeIn toolchain.storage partialName = none ∧
      after.file? toolchain.managed = some ⟨content, true⟩ := by
  unfold place at h
  split at h
  · cases h
  next made hmade =>
    split at h
    · cases h
    next written hwritten =>
      split at h
      · cases h
      next placed hrename =>
        cases h
        obtain ⟨hwrite, hfile⟩ := writeExecutable_partial hwritten
        obtain ⟨hmove, hgone, moved, hmoved, hbinary⟩ :=
          rename_child plain_partialName plain_binaryName (by decide) hrename
        cases (hfile rfl).symm.trans hmoved
        have hmake := evolvesIn_makeStorage [partialName] hmade
        exact ⟨((hmake.trans hwrite).mono (by simp)).trans hmove, hgone, hbinary⟩

/-- **A binary that was not put into its place** leaves no trace but at the partial download. -/
lemma evolves_of_place_error {e : FileError}
    (h : toolchain.place files content = (after, some e)) :
    EvolvesIn toolchain.storage [partialName] files after := by
  unfold place at h
  split at h
  next made e hmade =>
    cases h
    exact evolvesIn_makeStorage _ hmade
  next made hmade =>
    have hmake := evolvesIn_makeStorage [partialName] hmade
    split at h
    next written e hwritten =>
      cases h
      obtain ⟨hwrite, -⟩ := writeExecutable_partial hwritten
      exact (hmake.trans hwrite).trans (evolves_dropPartial toolchain written)
    next written hwritten =>
      obtain ⟨hwrite, -⟩ := writeExecutable_partial hwritten
      split at h
      · cases h
        exact (hmake.trans hwrite).trans (evolves_dropPartial toolchain written)
      · cases h

/-! ## The ways of an installation -/

/-- How an installation goes: its result, and the files afterwards. -/
inductive Installation (toolchain : Toolchain) (tag : String) (s : Surroundings) :
    Except InstallError String → FileTree → Prop where
  /-- There is nothing to install. -/
  | refused {e : InstallError} (hfetch : toolchain.fetch s.feed s.stops tag = .error e) :
    Installation toolchain tag s (.error e) s.files
  /-- The binary was not put into its place. -/
  | unplaced {release : Release} {content : Content} {files : FileTree} {e : FileError}
    (hfetch : toolchain.fetch s.feed s.stops tag = .ok (release, content))
    (hplace : toolchain.place s.files content = (files, some e)) :
    Installation toolchain tag s (.error (.file e)) files
  /-- The binary is in its place, but it was not recorded. -/
  | unrecorded {release : Release} {content : Content} {placed files : FileTree} {e : SaveError}
    (hfetch : toolchain.fetch s.feed s.stops tag = .ok (release, content))
    (hplace : toolchain.place s.files content = (placed, none))
    (hrecord : InstallState.update (recordInstalled release.tag) placed toolchain.storage =
      (files, .error e)) :
    Installation toolchain tag s (.error (.record e)) files
  /-- The binary is in its place and recorded. -/
  | installed {release : Release} {content : Content} {placed files : FileTree}
    {state : InstallState}
    (hfetch : toolchain.fetch s.feed s.stops tag = .ok (release, content))
    (hplace : toolchain.place s.files content = (placed, none))
    (hrecord : InstallState.update (recordInstalled release.tag) placed toolchain.storage =
      (files, .ok state)) :
    Installation toolchain tag s (.ok release.tag) files

lemma installation_of_install {result : Except InstallError String}
    (h : (toolchain.install tag).run s = (result, s')) :
    Installation toolchain tag s result s'.files := by
  simp only [install, modifyGet, MonadStateOf.modifyGet, StateT.modifyGet, StateT.run, pure] at h
  split at h
  next e hfetch =>
    cases h
    exact .refused hfetch
  next release content hfetch =>
    split at h
    next files e hplace =>
      cases h
      exact .unplaced hfetch hplace
    next placed hplace =>
      split at h
      next files e hrecord =>
        cases h
        exact .unrecorded hfetch hplace hrecord
      next files state hrecord =>
        cases h
        exact .installed hfetch hplace hrecord

lemma findRelease_error {feed : Feed} {asset : String} {e : InstallError}
    (h : findRelease feed tag asset = .error e) :
    (∀ cause, e ≠ .file cause) ∧ ∀ cause, e ≠ .record cause := by
  unfold findRelease at h
  split at h <;> split at h <;> cases h <;> simp

lemma download_error {feed : Feed} {stops : Wait → Bool} {release : Release} {asset : String}
    {e : InstallError} (h : download feed stops release asset = .error e) :
    (∀ cause, e ≠ .file cause) ∧ ∀ cause, e ≠ .record cause := by
  unfold download at h
  split at h
  · cases h
    simp
  · split at h
    · cases h
      simp
    · split at h <;> cases h
      simp

/-- Looking up a release touches no file, so it does not fail for one. -/
lemma fetch_error {feed : Feed} {stops : Wait → Bool} {e : InstallError}
    (h : toolchain.fetch feed stops tag = .error e) :
    (∀ cause, e ≠ .file cause) ∧ ∀ cause, e ≠ .record cause := by
  unfold fetch at h
  split at h
  · cases h
    simp
  next platform _ =>
    split at h
    · cases h
      simp
    · cases hrelease : findRelease feed tag platform.asset with
      | error refusal =>
        simp only [hrelease, bind, Except.bind] at h
        cases h
        exact findRelease_error hrelease
      | ok release =>
        cases hdownload : download feed stops release platform.asset with
        | error refusal =>
          simp only [hrelease, hdownload, bind, Except.bind] at h
          cases h
          exact download_error hdownload
        | ok content =>
          simp only [hrelease, hdownload, bind, Except.bind, pure, Except.pure] at h
          cases h

/-- Looking up a release records nothing, so it does not fail to. -/
lemma fetch_ne_record (feed : Feed) (stops : Wait → Bool) (cause : SaveError) :
    toolchain.fetch feed stops tag ≠ .error (.record cause) :=
  fun h => (fetch_error h).2 cause rfl

/-! ## Failures -/

/-- **What a failed installation changes**, where the files of the storage directory can be had by
its path.  The recorded state is never changed.  The installed compiler is changed by one failure
only, when it could not be recorded: then the new compiler is in place of the old one. -/
theorem install_error_effect (toolchain : Toolchain) (tag : String) (s s' : Surroundings)
    (e : InstallError) (hrun : (toolchain.install tag).run s = (.error e, s'))
    (hreaches : s.files.Reaches toolchain.storage) :
    toolchain.state s'.files = toolchain.state s.files ∧
      ((∀ cause, e ≠ .record cause) →
        s'.files.file? toolchain.managed = s.files.file? toolchain.managed) ∧
      ∀ cause, e = .record cause → ∃ release content,
        toolchain.fetch s.feed s.stops tag = .ok (release, content) ∧
          s'.files.file? toolchain.managed = some ⟨content, true⟩ := by
  have hinstallation := installation_of_install hrun
  have hstate {names : List FileName} {files : FileTree}
      (hevolves : EvolvesIn toolchain.storage names s.files files)
      (hname : InstallState.fileName ∉ names) : toolchain.state files = toolchain.state s.files :=
    InstallState.load_congr (hevolves.file?_child hreaches InstallState.plain_fileName hname)
  generalize s'.files = files at hinstallation ⊢
  cases hinstallation with
  | refused hfetch =>
    refine ⟨rfl, fun _ => rfl, fun cause hcause => ?_⟩
    exact absurd (hcause ▸ hfetch) (fetch_ne_record _ _ cause)
  | unplaced hfetch hplace =>
    have hevolves := evolves_of_place_error hplace
    refine ⟨hstate hevolves (by decide), fun _ => ?_, fun cause hcause => by cases hcause⟩
    exact hevolves.file?_child hreaches plain_binaryName (by decide)
  | unrecorded hfetch hplace hrecord =>
    obtain ⟨hplaced, -, hbinary⟩ := place_ok hplace
    have hrecorded := InstallState.evolves_of_update_error hrecord
    -- The binary was found in its place, so the storage directory opens while it is recorded.
    have hplacedReaches := reaches_of_file? plain_binaryName hbinary
    refine ⟨?_, fun h => absurd rfl (h _), fun cause _ => ⟨_, _, hfetch, ?_⟩⟩
    · have hboth : EvolvesIn toolchain.storage
          [partialName, binaryName, InstallState.draftName] s.files files :=
        (hplaced.mono (by simp)).trans (hrecorded.mono (by simp))
      exact hstate hboth (by decide)
    · rw [← hbinary]
      exact hrecorded.file?_child hplacedReaches plain_binaryName (by decide)

/-! ## A compiler that is replaced by a failure -/

/-- A toolchain with the storage directory. -/
def atStorage (storage : String) : Toolchain :=
  ⟨.ofText storage, none, some .linuxX64⟩

/-- Surroundings with the nodes and one release, whose asset is its own tag. -/
def offering (release : String) (nodes : List (List String × Node)) : Surroundings where
  files :=
    { entries := nodes.map fun (names, node) =>
        (names.map fun name => encode name.toList, node) }
  feed := .ofList [⟨release, none, none, false, [⟨Platform.linuxX64.asset, release⟩]⟩] .text
    fun _ => none
  editor := .fresh [] false
  downloads := 0
  cancelled := false

/-- A release is installed and recorded, but a directory stands where a new state is written. -/
def unrecordable : Surroundings :=
  offering "v2" [(["store"], .directory), (["store", "aelys"], .file ⟨.text "v1", true⟩),
    (["store", "state.json"], .file ⟨.text (InstallState.text ⟨some "v1", none⟩), false⟩),
    (["store", "state.json.tmp"], .directory)]

lemma reaches_unrecordable : unrecordable.files.Reaches (atStorage "/store").storage := by
  have hrooted : unrecordable.files.Rooted := by
    refine rooted_of_entries fun entry hentry => ?_
    simp only [unrecordable, offering, List.map_cons, List.map_nil, List.mem_cons,
      List.not_mem_nil, or_false] at hentry
    rcases hentry with rfl | rfl | rfl | rfl <;> rfl
  exact reaches_of_rooted hrooted (by decide) (by decide)

lemma run_unrecordable : ((atStorage "/store").install latestTag).run unrecordable =
    (.error (.record (.writing (.ofText "/store/state.json.tmp"))),
      (((atStorage "/store").install latestTag).run unrecordable).2) :=
  Prod.ext (by decide) rfl

theorem install_error_effect_unrecordable :
    (atStorage "/store").state
          (((atStorage "/store").install latestTag).run unrecordable).2.files =
        (atStorage "/store").state unrecordable.files ∧
      ∃ release content,
        (atStorage "/store").fetch unrecordable.feed unrecordable.stops latestTag =
            .ok (release, content) ∧
          (((atStorage "/store").install latestTag).run unrecordable).2.files.file?
            (atStorage "/store").managed = some ⟨content, true⟩ := by
  obtain ⟨hstate, -, hbinary⟩ := install_error_effect (atStorage "/store") latestTag unrecordable
    _ _ run_unrecordable reaches_unrecordable
  exact ⟨hstate, hbinary _ rfl⟩

lemma file?_ne_of_readText? {path : Path} (h : after.readText? path ≠ files.readText? path) :
    after.file? path ≠ files.file? path := by
  intro hfile
  rw [readText?, readText?, hfile] at h
  exact h rfl

/-- A directory stands where the binary is written first. -/
def unwritable : Surroundings :=
  offering "v2" [(["store"], .directory), (["store", "aelys"], .file ⟨.text "v1", true⟩),
    (["store", "aelys.download"], .directory)]

lemma run_unwritable : ((atStorage "/gone/../store").install latestTag).run unwritable =
    (.error (.file .isADirectory),
      (((atStorage "/gone/../store").install latestTag).run unwritable).2) :=
  Prod.ext (by decide) rfl

/-- **A failed installation may change the installed compiler**: when the new one could not be
recorded, and also when the way to the storage directory was made by the installation itself, which
brings a compiler to light that was not found there before. -/
theorem install_error_may_change_binary :
    (∃ (toolchain : Toolchain) (tag : String) (s s' : Surroundings) (cause : SaveError),
      (toolchain.install tag).run s = (.error (.record cause), s') ∧
        s.files.Reaches toolchain.storage ∧
        s'.files.file? toolchain.managed ≠ s.files.file? toolchain.managed) ∧
      ∃ (toolchain : Toolchain) (tag : String) (s s' : Surroundings) (e : InstallError),
        (toolchain.install tag).run s = (.error e, s') ∧ (∀ cause, e ≠ .record cause) ∧
          s'.files.file? toolchain.managed ≠ s.files.file? toolchain.managed := by
  constructor
  · exact ⟨atStorage "/store", latestTag, unrecordable, _, _, run_unrecordable,
      reaches_unrecordable, file?_ne_of_readText? (by decide)⟩
  · exact ⟨atStorage "/gone/../store", latestTag, unwritable, _, _, run_unwritable, by simp,
      file?_ne_of_readText? (by decide)⟩

end Toolchain

end LanguageServer
