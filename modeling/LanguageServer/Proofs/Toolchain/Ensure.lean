import Mathlib.Tactic.Common
import LanguageServer.Proofs.Toolchain.Update

/-!
# Whether the compiler is there after an installation

Where the compiler is missing the user is offered an installation.  A release is installed into the
storage directory, but the compiler to use may be a configured one, at another path.  This file says
when there is a compiler in the end.

An installation leaves two files, the compiler and the recorded state, and it makes directories
(`Toolchain.Installation.file_after`).  A toolchain without a configured compiler finds what it
installed.  A configured compiler that was missing before is found only if its path, absolute or
from the working directory, happens to lead to one of these files, or to a file that was out of its
reach before (`Toolchain.ensureBinary_eq_none_iff`).
-/

namespace LanguageServer

open Text FileTree

namespace Toolchain

variable {toolchain : Toolchain} {tag installed : String} {s : Surroundings} {files : FileTree}

/-! ## The files of an installation -/

/-- An installation touches the storage directory alone. -/
lemma Installation.evolves {result : Except InstallError String}
    (h : Installation toolchain tag s result files) :
    EvolvesIn toolchain.storage
      [partialName, binaryName, InstallState.draftName, InstallState.fileName] s.files files := by
  cases h with
  | refused hfetch => exact .refl _ _
  | unplaced hfetch hplace => exact (evolves_of_place_error hplace).mono (by simp)
  | unrecorded hfetch hplace hrecord =>
    exact ((place_ok hplace).1.mono (by simp)).trans
      ((InstallState.evolves_of_update_error hrecord).mono (by simp))
  | installed hfetch hplace hrecord =>
    obtain ⟨-, hsave⟩ := InstallState.save_of_update hrecord
    exact ((place_ok hplace).1.mono (by simp)).trans ((InstallState.save_ok hsave).1.mono (by simp))

/-- An installation that ends well leaves the compiler, which may be run, and the file of the state;
every other file was there before. -/
lemma Installation.file_after (h : Installation toolchain tag s (.ok installed) files) :
    (∃ content, files.file? toolchain.managed = some ⟨content, true⟩) ∧
      ∀ place file, files.node? place = some (.file file) →
        place = files.placeOf toolchain.storage ++ [binaryName] ∨
          place = files.placeOf toolchain.storage ++ [InstallState.fileName] ∨
          s.files.node? place = some (.file file) := by
  have hplaceOf := Evolves.placeOf_eq h.evolves toolchain.storage
  cases h with
  | @installed release content placed _ state hfetch hplace hrecord =>
    refine ⟨⟨content, (holds_of_install hplace hrecord).binary⟩, fun place file hfile => ?_⟩
    obtain ⟨hplaced, hpartial, -⟩ := place_ok hplace
    obtain ⟨rfl, hsave⟩ := InstallState.save_of_update hrecord
    obtain ⟨hsaved, -⟩ := InstallState.save_ok hsave
    have hdraft := InstallState.nodeIn_draft_of_save hsave
    have hplacedOf := Evolves.placeOf_eq hplaced toolchain.storage
    rw [nodeIn, hplaceOf] at hdraft
    rw [nodeIn, hplacedOf] at hpartial
    rw [EvolvesIn, hplacedOf] at hsaved
    rw [hplaceOf]
    by_cases hbinary : place = s.files.placeOf toolchain.storage ++ [binaryName]
    · exact .inl hbinary
    by_cases hstate : place = s.files.placeOf toolchain.storage ++ [InstallState.fileName]
    · exact .inr (.inl hstate)
    right; right
    have hnotDraft : place ≠ s.files.placeOf toolchain.storage ++ [InstallState.draftName] := by
      rintro rfl
      cases hdraft.symm.trans hfile
    have hbetween := (Evolves.file_iff hsaved (by simp [hnotDraft, hstate]) file).1 hfile
    have hnotPartial : place ≠ s.files.placeOf toolchain.storage ++ [partialName] := by
      rintro rfl
      cases hpartial.symm.trans hbetween
    exact (Evolves.file_iff hplaced (by simp [hnotPartial, hbinary]) file).1 hbetween

/-! ## The course of the conversation -/

/-- The question whether a missing compiler shall be installed now. -/
def missingQuestion : Event :=
  .prompt "Aelys executable not found." [installNow]

/-- The surroundings after the question. -/
def asked (s : Surroundings) : Surroundings :=
  { s with editor := (s.editor.ask missingQuestion).2 }

lemma result_announce (toolchain : Toolchain) (result : Except InstallError String)
    (s : Surroundings) : ((toolchain.announce result).run s).1 = result.toOption := by
  cases result with
  | ok tag => rfl
  | error e => cases e <;> rfl

lemma result_installWithProgress (toolchain : Toolchain) (tag : String) (s : Surroundings) :
    ((toolchain.installWithProgress tag).run s).1 = ((toolchain.install tag).run s).1.toOption := by
  set begun := s.editor.beginWork ("Aelys: Installing " ++ tag ++ "...") with hbegun
  set editor := begun.2.tell (.progressReport begun.1 ("Downloading " ++ tag ++ "...")) with heditor
  calc ((toolchain.installWithProgress tag).run s).1
      = ((toolchain.install tag).run { s with editor }).1.toOption := result_announce toolchain _ _
    _ = ((toolchain.install tag).run s).1.toOption := by rw [install_editor]

lemma installation_of_installWithProgress
    (h : ((toolchain.installWithProgress tag).run s).1 = some installed) :
    Installation toolchain tag s (.ok installed)
      ((toolchain.installWithProgress tag).run s).2.files := by
  rw [result_installWithProgress] at h
  rw [files_installWithProgress]
  refine installation_of_install (Prod.ext ?_ rfl)
  cases hresult : ((toolchain.install tag).run s).1 with
  | error e =>
    rw [hresult] at h
    cases h
  | ok found =>
    rw [hresult] at h
    cases h
    rfl

lemma run_bind {α β : Type} (first : Activity α) (next : α → Activity β) (s : Surroundings) :
    (first >>= next).run s = (next (first.run s).1).run (first.run s).2 :=
  rfl

lemma run_ensureBinary (toolchain : Toolchain) (s : Surroundings) :
    toolchain.ensureBinary.run s =
      if toolchain.hasBinary s.files then (some toolchain.binary, s)
      else if s.editor.takeReply.1.choice = some installNow then
        match (toolchain.installWithProgress latestTag).run (asked s) with
        | (none, after) => (none, after)
        | (some _, after) =>
          (if toolchain.hasBinary after.files then some toolchain.binary else none, after)
      else (none, asked s) := by
  have hask : (Activity.ask (.prompt "Aelys executable not found." [installNow])).run s =
    (s.editor.takeReply.1, asked s) := run_ask missingQuestion s
  simp only [ensureBinary, run_bind, StateT.run_get, pure]
  by_cases hbinary : toolchain.hasBinary s.files
  · simp only [hbinary, if_true]
    rfl
  · simp only [hbinary, Bool.false_eq_true, if_false, run_bind, hask]
    by_cases hreply : s.editor.takeReply.1.choice = some installNow
    · simp only [hreply, ne_eq, not_true_eq_false, if_false, if_true, run_bind]
      rcases (toolchain.installWithProgress latestTag).run (asked s) with ⟨_ | found, after⟩
      · rfl
      · simp only [run_bind, StateT.run_get, pure]
        by_cases hfound : toolchain.hasBinary after.files
        · simp only [hfound, if_true]
          rfl
        · simp only [hfound, Bool.false_eq_true, if_false]
          rfl
    · simp only [hreply, ne_eq, not_false_eq_true, if_true, if_false]
      rfl

/-! ## The compiler in the end -/

/-- The path leads to one of the two files that an installation leaves: the compiler, or the file of
the recorded state. -/
def FindsNew (toolchain : Toolchain) (files : FileTree) (path : Path) : Prop :=
  ∃ name ∈ [binaryName, InstallState.fileName], ∃ file,
    files.locate path = .ok (files.placeOf toolchain.storage ++ [name], some (.file file))

/-- The path leads to one of these files, or to a file that was there before. -/
def Finds (toolchain : Toolchain) (before after : FileTree) (path : Path) : Prop :=
  toolchain.FindsNew after path ∨
    ∃ place file, after.locate path = .ok (place, some (.file file)) ∧
      before.node? place = some (.file file)

lemma isFile_iff {path : Path} :
    files.isFile path = true ↔
      ∃ place file, files.locate path = .ok (place, some (.file file)) := by
  unfold isFile file?
  split
  next place file hlocate => simp [hlocate]
  next hlocate =>
    simp only [Option.isSome_none, Bool.false_eq_true, false_iff]
    rintro ⟨place, file, hfound⟩
    exact hlocate place file hfound

/-- After an installation a path leads to a file if and only if it finds one of its files, or an old
one. -/
lemma Installation.isFile_iff_finds (h : Installation toolchain tag s (.ok installed) files)
    (path : Path) : files.isFile path = true ↔ toolchain.Finds s.files files path := by
  rw [isFile_iff]
  constructor
  · rintro ⟨place, file, hlocate⟩
    rcases h.file_after.2 place file (locate_ok hlocate).2 with rfl | rfl | hold
    · exact .inl ⟨binaryName, by simp, file, hlocate⟩
    · exact .inl ⟨InstallState.fileName, by simp, file, hlocate⟩
    · exact .inr ⟨place, file, hlocate, hold⟩
  · rintro (⟨name, -, file, hlocate⟩ | ⟨place, file, hlocate, -⟩)
    · exact ⟨_, file, hlocate⟩
    · exact ⟨place, file, hlocate⟩

/-- In a file system, a path without pairs of dots that led to no file before leads to a new one. -/
lemma findsNew_of_finds {before after : FileTree} {path : Path}
    (hdirectory : after.workingDirectory = before.workingDirectory) (hrooted : before.Rooted)
    (habove : Path.above ∉ path.parts) (hbefore : before.isFile path = false)
    (h : toolchain.Finds before after path) : toolchain.FindsNew after path := by
  rcases h with hnew | ⟨place, file, hlocate, hold⟩
  · exact hnew
  · have hfile := hrooted.file?_of_locate hdirectory habove hlocate hold
    rw [isFile, hfile] at hbefore
    cases hbefore

/-- The compiler to use is there after an installation if and only if none is configured, or the
configured path finds a file. -/
lemma Installation.hasBinary_iff (h : Installation toolchain tag s (.ok installed) files) :
    toolchain.hasBinary files = true ↔
      ∀ path, toolchain.compiler = some path → toolchain.Finds s.files files path := by
  cases hcompiler : toolchain.compiler with
  | none =>
    obtain ⟨⟨content, hbinary⟩, -⟩ := h.file_after
    simp [hasBinary, binary, hcompiler, isFile, hbinary]
  | some path => simp [hasBinary, binary, hcompiler, h.isFile_iff_finds]

/-- **When there is no compiler in the end.**  It is missing in the beginning, and then the user
declines, or the installation fails, or a compiler is configured and its path does not lead to a
file after the installation either.  In a file system, a configured path without pairs of dots has
to lead to the installed compiler itself, or to the file of the recorded state.  In every other case
the path of the compiler to use is returned, and it leads to a file. -/
theorem ensureBinary_eq_none_iff (toolchain : Toolchain) (s : Surroundings) :
    ((toolchain.ensureBinary.run s).1 = none ↔
        toolchain.hasBinary s.files = false ∧
          (s.editor.takeReply.1.choice ≠ some installNow ∨
            ((toolchain.installWithProgress latestTag).run (asked s)).1 = none ∨
            ∃ path, toolchain.compiler = some path ∧
              ¬ toolchain.Finds s.files
                ((toolchain.installWithProgress latestTag).run (asked s)).2.files path)) ∧
      (∀ path, toolchain.compiler = some path → s.files.Rooted → Path.above ∉ path.parts →
        toolchain.hasBinary s.files = false →
          toolchain.Finds s.files
              ((toolchain.installWithProgress latestTag).run (asked s)).2.files path →
            toolchain.FindsNew
              ((toolchain.installWithProgress latestTag).run (asked s)).2.files path) ∧
      ∀ path, (toolchain.ensureBinary.run s).1 = some path →
        path = toolchain.binary ∧ (toolchain.ensureBinary.run s).2.files.isFile path = true := by
  have hplain : ∀ path, toolchain.compiler = some path → s.files.Rooted →
      Path.above ∉ path.parts → toolchain.hasBinary s.files = false →
      toolchain.Finds s.files
          ((toolchain.installWithProgress latestTag).run (asked s)).2.files path →
        toolchain.FindsNew
          ((toolchain.installWithProgress latestTag).run (asked s)).2.files path := by
    intro path hcompiler hrooted habove hbinary
    rw [hasBinary, binary, hcompiler, Option.getD_some] at hbinary
    refine findsNew_of_finds ?_ hrooted habove hbinary
    rw [files_installWithProgress]
    exact (installation_of_install (s := asked s) rfl).evolves.workingDirectory
  rw [and_left_comm, run_ensureBinary]
  refine ⟨hplain, ?_⟩
  by_cases hbinary : toolchain.hasBinary s.files
  · simp only [hbinary, if_true]
    refine ⟨by simp, ?_⟩
    rintro path ⟨⟩
    exact ⟨rfl, hbinary⟩
  by_cases hreply : s.editor.takeReply.1.choice = some installNow
  · simp only [hbinary, hreply, Bool.false_eq_true, if_false, if_true, ne_eq, not_true_eq_false,
      false_or, true_and]
    rcases hinstall : (toolchain.installWithProgress latestTag).run (asked s) with
      ⟨_ | installed, after⟩
    · simp
    · have hinstallation :
          Installation toolchain latestTag (asked s) (.ok installed) after.files := by
        have h := @installation_of_installWithProgress toolchain latestTag installed (asked s)
          (by rw [hinstall])
        rwa [hinstall] at h
      have hfinds : toolchain.hasBinary after.files = true ↔ ∀ path,
          toolchain.compiler = some path → toolchain.Finds s.files after.files path :=
        hinstallation.hasBinary_iff
      by_cases hfound : toolchain.hasBinary after.files
      · simp only [hfound, if_true]
        refine ⟨?_, ?_⟩
        · simpa using hfinds.1 hfound
        · rintro path ⟨⟩
          exact ⟨rfl, hfound⟩
      · simp only [hfound, Bool.false_eq_true, if_false]
        refine ⟨?_, by simp⟩
        simpa using mt hfinds.2 hfound
  · simp [hbinary, hreply]

/-! ## A compiler that is installed in vain -/

/-- A toolchain with a configured compiler. -/
def configured (compiler : String) : Toolchain :=
  { atStorage "/store" with compiler := some (.ofText compiler) }

/-- No file is there, one release is on offer, and the user wants it. -/
def installing : Surroundings :=
  { offering "v2" [] with editor := .fresh [.ofText (some installNow)] false }

/-- The installed compiler under other spellings of its path, one of them relative. -/
theorem ensureBinary_eq_none_iff_respelled :
    ∀ path ∈ ["/store/./aelys", "store/aelys"],
      ((configured path).ensureBinary.run installing).1 = some (.ofText path) ∧
        ((configured path).ensureBinary.run installing).2.files.isFile (.ofText path) = true := by
  have hresult : ∀ path ∈ ["/store/./aelys", "store/aelys"],
      ((configured path).ensureBinary.run installing).1 = some (.ofText path) := by
    decide +kernel
  intro path hpath
  obtain ⟨-, -, hfound⟩ := ensureBinary_eq_none_iff (configured path) installing
  exact ⟨hresult path hpath, (hfound _ (hresult path hpath)).2⟩

/-- **A compiler may be missing although the user wanted one and it was installed**: a compiler is
configured, and it is another one. -/
theorem ensureBinary_may_miss_installed :
    ∃ (toolchain : Toolchain) (s : Surroundings) (tag : String),
      s.editor.takeReply.1.choice = some installNow ∧
        ((toolchain.installWithProgress latestTag).run (asked s)).1 = some tag ∧
        (toolchain.ensureBinary.run s).1 = none :=
  ⟨configured "/custom/aelys", installing, "v2", by decide, by decide +kernel, by decide +kernel⟩

end Toolchain

end LanguageServer
