import Mathlib.Tactic.Common
import LanguageServer.Proofs.Toolchain.Install
import LanguageServer.Toolchain.Update

/-!
# What a check does to the storage directory

A check talks to the user and to the source of releases, and may end up doing something to the
storage directory.  That is one of three deeds (`Toolchain.Deed`): nothing, installing a release or
putting one off.  Which one it is can be told from the surroundings that the check starts in and
from the next reply of the user (`Toolchain.checkDeed`), and the talk around it touches no file
(`Toolchain.files_checkForUpdate`).

`Toolchain.Holds` says that a release is installed, with everything that belongs to it.  Installing
a release establishes it, and putting off another release keeps it.
-/

namespace LanguageServer

open Text FileTree

namespace Toolchain

variable {toolchain : Toolchain} {tag : String} {s : Surroundings}

/-! ## What is done to the storage directory -/

/-- What a call does to the storage directory. -/
inductive Deed where
  | nothing
  | install (tag : String)
  /-- A release is recorded as unwanted. -/
  | putOff (tag : String)
deriving DecidableEq, Repr

/-- The files after a deed. -/
def Deed.filesAfter (toolchain : Toolchain) (s : Surroundings) : Deed → FileTree
  | .nothing => s.files
  | .install tag => ((toolchain.install tag).run s).2.files
  | .putOff tag => (InstallState.update (recordIgnored tag) s.files toolchain.storage).1

/-- The deed that the user chooses where the compiler is missing. -/
def installDeed (reply : Reply) : Deed :=
  if reply.choice = some installLatest then .install latestTag else .nothing

/-- The deed that the user chooses where a release is offered. -/
def updateDeed (tag : String) (reply : Reply) : Deed :=
  if reply.choice = some updateNow then .install tag
  else if reply.choice = some later then .putOff tag
  else .nothing

/-- The deed of a check. -/
def checkDeed (toolchain : Toolchain) (s : Surroundings) : Deed :=
  let reply := s.editor.takeReply.1
  if toolchain.compiler.isSome then .nothing
  else if toolchain.hasBinary s.files then
    match s.feed.latest with
    | .ok (some release) =>
      if settled (toolchain.state s.files) release.tag then .nothing
      else updateDeed release.tag reply
    | _ => .nothing
  else installDeed reply

/-! ## Conversations leave the files alone -/

/-- An installation does not look at the editor. -/
lemma install_editor (toolchain : Toolchain) (tag : String) (s : Surroundings) (editor : Editor) :
    (toolchain.install tag).run { s with editor } =
      (((toolchain.install tag).run s).1,
        { ((toolchain.install tag).run s).2 with editor }) := by
  have hstops : Surroundings.stops { s with editor } = s.stops := rfl
  simp only [install, modifyGet, MonadStateOf.modifyGet, StateT.modifyGet, StateT.run, pure, hstops]
  split
  · rfl
  · split
    · rfl
    · split <;> rfl

lemma files_announce (toolchain : Toolchain) (result : Except InstallError String)
    (s : Surroundings) : ((toolchain.announce result).run s).2.files = s.files := by
  cases result with
  | ok tag => rfl
  | error e => cases e <;> rfl

lemma files_installWithProgress (toolchain : Toolchain) (tag : String) (s : Surroundings) :
    ((toolchain.installWithProgress tag).run s).2.files =
      ((toolchain.install tag).run s).2.files := by
  set begun := s.editor.beginWork ("Aelys: Installing " ++ tag ++ "...") with hbegun
  set editor := begun.2.tell (.progressReport begun.1 ("Downloading " ++ tag ++ "...")) with heditor
  calc ((toolchain.installWithProgress tag).run s).2.files
      = ((toolchain.install tag).run { s with editor }).2.files := files_announce toolchain _ _
    _ = ((toolchain.install tag).run s).2.files := by rw [install_editor]

lemma files_install_editor (toolchain : Toolchain) (tag : String) (s : Surroundings)
    (editor : Editor) : ((toolchain.install tag).run { s with editor }).2.files =
      ((toolchain.install tag).run s).2.files := by
  rw [install_editor]

/-- A question is answered by the next reply, and changes nothing but the editor. -/
lemma run_ask (question : Event) (s : Surroundings) :
    (Activity.ask question).run s =
      (s.editor.takeReply.1, { s with editor := (s.editor.ask question).2 }) := by
  have hreply : (s.editor.ask question).1 = s.editor.takeReply.1 := by
    unfold Editor.ask Editor.takeReply Editor.tell
    cases s.editor.replies <;> rfl
  rw [← hreply]
  rfl

lemma files_offerInstall (toolchain : Toolchain) (s : Surroundings) :
    ((toolchain.offerInstall).run s).2.files =
      (installDeed s.editor.takeReply.1).filesAfter toolchain s := by
  have hask := run_ask
    (.prompt "Aelys executable is missing. Download it to run scripts?" [installLatest]) s
  simp only [offerInstall, StateT.run_bind, hask, installDeed]
  by_cases hreply : s.editor.takeReply.1.choice = some installLatest
  · simp only [bind, hreply, if_true]
    exact (files_installWithProgress toolchain _ _).trans (files_install_editor ..)
  · simp only [bind, hreply, if_false]
    rfl

lemma files_offerUpdate (toolchain : Toolchain) (tag : String) (s : Surroundings) :
    ((toolchain.offerUpdate tag).run s).2.files =
      (updateDeed tag s.editor.takeReply.1).filesAfter toolchain s := by
  have hask := run_ask
    (.prompt ("A new version of Aelys is available (" ++ tag ++ ").") [updateNow, later]) s
  simp only [offerUpdate, StateT.run_bind, hask, updateDeed]
  by_cases hnow : s.editor.takeReply.1.choice = some updateNow
  · simp only [bind, hnow, if_true]
    exact (files_installWithProgress toolchain _ _).trans (files_install_editor ..)
  · by_cases hlater : s.editor.takeReply.1.choice = some later
    · simp only [bind, hlater, if_true]
      rfl
    · simp only [bind, hnow, hlater, if_false]
      rfl

lemma run_checkForUpdate (toolchain : Toolchain) (s : Surroundings) :
    toolchain.checkForUpdate.run s =
      if toolchain.compiler.isSome then ((), s)
      else if toolchain.hasBinary s.files then
        match s.feed.latest with
        | .ok (some release) =>
          if settled (toolchain.state s.files) release.tag then ((), s)
          else (toolchain.offerUpdate release.tag).run s
        | _ => ((), s)
      else toolchain.offerInstall.run s := by
  unfold checkForUpdate
  by_cases hcompiler : toolchain.compiler.isSome
  · simp only [hcompiler, if_true]
    rfl
  · simp only [hcompiler, Bool.false_eq_true, if_false, StateT.run_bind, StateT.run_get, pure_bind]
    by_cases hbinary : toolchain.hasBinary s.files
    · simp only [hbinary, Bool.not_true, Bool.false_eq_true, if_false, if_true, StateT.run_bind,
        StateT.run_get, pure_bind]
      rcases s.feed.latest with message | _ | release
      · rfl
      · rfl
      · by_cases hsettled : settled (toolchain.state s.files) release.tag
        · simp only [StateT.run_bind, StateT.run_get, pure_bind, hsettled, Bool.not_true,
            Bool.false_eq_true, if_false, if_true]
          rfl
        · simp only [StateT.run_bind, StateT.run_get, pure_bind, hsettled, Bool.not_false,
            Bool.false_eq_true, if_false, if_true]
    · simp only [hbinary, Bool.not_false, if_true, Bool.false_eq_true, if_false]
      rfl

/-- **A check touches the files by its deed alone.** -/
lemma files_checkForUpdate (toolchain : Toolchain) (s : Surroundings) :
    (toolchain.checkForUpdate.run s).2.files = (toolchain.checkDeed s).filesAfter toolchain s := by
  rw [run_checkForUpdate, checkDeed]
  split
  · rfl
  · split
    · split
      · split
        · rfl
        · exact files_offerUpdate ..
      · rfl
    · exact files_offerInstall ..

/-- A release is put off only when another one is installed and it is not unwanted already. -/
lemma of_checkDeed_putOff (h : toolchain.checkDeed s = .putOff tag) :
    s.files.isFile toolchain.managed ∧ settled (toolchain.state s.files) tag = false := by
  have hinstall (reply : Reply) : installDeed reply ≠ .putOff tag := by
    unfold installDeed
    split <;> simp
  simp only [checkDeed] at h
  split at h
  · cases h
  next hcompiler =>
    split at h
    next hbinary =>
      split at h
      next release _ =>
        split at h
        · cases h
        next hsettled =>
          have htag : release.tag = tag := by
            unfold updateDeed at h
            split at h
            · cases h
            · split at h
              · cases h
                rfl
              · cases h
          rw [hasBinary, binary, Option.not_isSome_iff_eq_none.1 hcompiler] at hbinary
          rw [← htag]
          exact ⟨hbinary, Bool.eq_false_iff.2 hsettled⟩
      · cases h
    · exact absurd h (hinstall _)

/-! ## What is installed -/

/-- A release is installed: its binary is in place and may be run, nothing is left of the download,
and the release is recorded and not unwanted. -/
structure Holds (toolchain : Toolchain) (files : FileTree) (tag : String)
    (ignored : Option String) (content : Content) : Prop where
  binary : files.file? toolchain.managed = some ⟨content, true⟩
  noPartial : files.file? toolchain.partialDownload = none
  recorded : toolchain.state files = ⟨some tag, ignored⟩
  wanted : ignored ≠ some tag

variable {files placed after : FileTree} {content : Content} {ignored : Option String}
  {state : InstallState}

lemma Holds.reaches (h : Holds toolchain files tag ignored content) :
    files.Reaches toolchain.storage :=
  reaches_of_file? plain_binaryName h.binary

/-- **An installation that ends well installs the release**, whatever was there before. -/
lemma holds_of_install (hplace : toolchain.place files content = (placed, none))
    (hrecord : InstallState.update (recordInstalled tag) placed toolchain.storage =
      (after, .ok state)) :
    Holds toolchain after tag none content := by
  obtain ⟨-, hgone, hbinary⟩ := place_ok hplace
  obtain ⟨rfl, hsave⟩ := InstallState.save_of_update hrecord
  obtain ⟨hevolves, -⟩ := InstallState.save_ok hsave
  have hreaches := reaches_of_file? plain_binaryName hbinary
  refine ⟨?_, ?_, InstallState.load_of_save hsave, by simp⟩
  · rw [← hbinary]
    exact hevolves.file?_child hreaches plain_binaryName (by decide)
  · rw [← file?_child_eq_none plain_partialName hgone]
    exact hevolves.file?_child hreaches plain_partialName (by decide)

/-- **Putting off another release** keeps the installed one. -/
lemma Holds.putOff {other : String} (h : Holds toolchain files tag ignored content)
    (hother : other ≠ tag)
    (hrecord : InstallState.update (recordIgnored other) files toolchain.storage =
      (after, .ok state)) :
    Holds toolchain after tag (some other) content := by
  obtain ⟨rfl, hsave⟩ := InstallState.save_of_update hrecord
  obtain ⟨hevolves, -⟩ := InstallState.save_ok hsave
  refine ⟨?_, ?_, ?_, by simpa using hother⟩
  · rw [← h.binary]
    exact hevolves.file?_child h.reaches plain_binaryName (by decide)
  · rw [← h.noPartial]
    exact hevolves.file?_child h.reaches plain_partialName (by decide)
  · have hrecorded := h.recorded
    rw [Toolchain.state] at hrecorded ⊢
    rw [InstallState.load_of_save hsave, hrecorded]
    rfl

end Toolchain

end LanguageServer
