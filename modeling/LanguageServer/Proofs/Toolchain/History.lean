import Mathlib.Tactic.Common
import LanguageServer.Proofs.Toolchain.Update

/-!
# The installed compiler over a whole history

A toolchain is used again and again: a release is installed, or it is checked whether there is a
newer one and the user answers as they like.  On each such occasion the releases, the requests that
fail, the answers and the wish to stop may be different ones; what stays is the storage directory.

As long as the file system refuses nothing, every occasion keeps the installed binary, the recorded
release and the unwanted release in agreement (`Toolchain.Consistent.step`), and so does every
history (`Toolchain.Consistent.history`).  For a storage directory that is empty in the beginning,
`Toolchain.history_agrees` says in full what agrees.
-/

namespace LanguageServer

open Text FileTree

namespace Toolchain

/-! ## Occasions -/

/-- What a toolchain is called for. -/
inductive Call where
  | install (tag : String)
  | checkForUpdate
deriving DecidableEq, Repr

/-- The activity of a call. -/
def Call.activity (toolchain : Toolchain) : Call → Activity Unit
  | .install tag => do let _ ← toolchain.install tag
  | .checkForUpdate => toolchain.checkForUpdate

/-- What a call does to the storage directory. -/
def Call.deed (toolchain : Toolchain) (s : Surroundings) : Call → Deed
  | .install tag => .install tag
  | .checkForUpdate => toolchain.checkDeed s

/-- A call, and everything around it but the files. -/
structure Occasion where
  call : Call
  feed : Feed
  editor : Editor
  downloads : Nat
  compilations : Nat
  cancelled : Bool
  interrupted : Wait → Bool

/-- The surroundings of the occasion, with the files as they are then. -/
def Occasion.surroundings (occasion : Occasion) (files : FileTree) : Surroundings :=
  ⟨files, occasion.feed, occasion.editor, occasion.downloads, occasion.compilations,
    occasion.cancelled, occasion.interrupted⟩

/-- The files after the occasion. -/
def Occasion.filesAfter (toolchain : Toolchain) (files : FileTree) (occasion : Occasion) :
    FileTree :=
  ((occasion.call.activity toolchain).run (occasion.surroundings files)).2.files

/-- The files after one occasion after the other. -/
def filesAfter (toolchain : Toolchain) (start : FileTree) (occasions : List Occasion) : FileTree :=
  occasions.foldl (Occasion.filesAfter toolchain) start

/-! ## File systems that refuse nothing -/

/-- Does the file system refuse nothing that belongs to the deed: no directory, no file, no
permission and no renaming? -/
def Deed.smooth (toolchain : Toolchain) (s : Surroundings) : Deed → Bool
  | .nothing => true
  | .install tag =>
    match ((toolchain.install tag).run s).1 with
    | .error (.file _) | .error (.record _) => false
    | _ => true
  | .putOff tag =>
    match (InstallState.update (recordIgnored tag) s.files toolchain.storage).2 with
    | .error _ => false
    | .ok _ => true

/-- Does the file system refuse nothing on all the occasions? -/
def smooth (toolchain : Toolchain) (files : FileTree) : List Occasion → Bool
  | [] => true
  | occasion :: rest =>
    let s := occasion.surroundings files
    (occasion.call.deed toolchain s).smooth toolchain s &&
      smooth toolchain (occasion.filesAfter toolchain files) rest

/-! ## What every occasion keeps -/

/-- The feed has a release with the tag, and hands out the content for its asset. -/
def Offers (toolchain : Toolchain) (feed : Feed) (tag : String) (content : Content) : Prop :=
  ∃ release platform asset,
    (feed.latest = .ok (some release) ∨ ∃ name, feed.tagged name = .ok (some release)) ∧
      release.tag = tag ∧ toolchain.platform = some platform ∧
      release.asset? platform.asset = some asset ∧ feed.download asset.url = .ok content

/-- Nothing is installed and nothing recorded, or a release of one of the feeds is installed. -/
inductive Consistent (toolchain : Toolchain) (feeds : List Feed) (files : FileTree) : Prop where
  | bare (hbinary : files.file? toolchain.managed = none)
    (hrecorded : toolchain.state files = .empty)
  | installed {tag : String} {ignored : Option String} {content : Content} {feed : Feed}
    (hholds : Holds toolchain files tag ignored content) (hfeed : feed ∈ feeds)
    (hoffers : Offers toolchain feed tag content)

variable {toolchain : Toolchain} {tag : String} {s : Surroundings} {files : FileTree}
  {feeds : List Feed}

/-- One tag stands for the newest release, and by every other tag the feed is asked. -/
lemma findRelease_ok {feed : Feed} {asset : String} {release : Release}
    (h : findRelease feed tag asset = .ok release) :
    (tag = latestTag ∧ feed.latest = .ok (some release)) ∨
      (tag ≠ latestTag ∧ feed.tagged tag = .ok (some release)) := by
  unfold findRelease at h
  split at h
  next htag =>
    split at h
    · cases h
    · cases h
    next found hlatest =>
      cases h
      exact .inl ⟨htag, hlatest⟩
  next htag =>
    split at h
    · cases h
    · cases h
    next found htagged =>
      cases h
      exact .inr ⟨htag, htagged⟩

lemma download_ok {feed : Feed} {stops : Wait → Bool} {release : Release} {asset : String}
    {content : Content} (h : download feed stops release asset = .ok content) :
    ∃ found, release.asset? asset = some found ∧ feed.download found.url = .ok content := by
  unfold download at h
  split at h
  · cases h
  next found hasset =>
    split at h
    · cases h
    · split at h
      · cases h
      next content hdownload =>
        cases h
        exact ⟨found, hasset, hdownload⟩

lemma fetch_ok {feed : Feed} {stops : Wait → Bool} {release : Release} {content : Content}
    (h : toolchain.fetch feed stops tag = .ok (release, content)) :
    ∃ platform asset, toolchain.platform = some platform ∧
      findRelease feed tag platform.asset = .ok release ∧
      release.asset? platform.asset = some asset ∧ feed.download asset.url = .ok content := by
  unfold fetch at h
  split at h
  · cases h
  next platform hplatform =>
    split at h
    · cases h
    · cases hrelease : findRelease feed tag platform.asset with
      | error e =>
        simp only [hrelease, bind, Except.bind] at h
        cases h
      | ok found =>
        cases hdownload : download feed stops found platform.asset with
        | error e =>
          simp only [hrelease, hdownload, bind, Except.bind] at h
          cases h
        | ok content =>
          simp only [hrelease, hdownload, bind, Except.bind, pure, Except.pure] at h
          cases h
          obtain ⟨asset, hasset, hcontent⟩ := download_ok hdownload
          exact ⟨platform, asset, hplatform, hrelease, hasset, hcontent⟩

lemma offers_of_fetch {feed : Feed} {stops : Wait → Bool} {release : Release} {content : Content}
    (h : toolchain.fetch feed stops tag = .ok (release, content)) :
    Offers toolchain feed release.tag content := by
  obtain ⟨platform, asset, hplatform, hrelease, hasset, hdownload⟩ := fetch_ok h
  have hlisted : feed.latest = .ok (some release) ∨
      ∃ name, feed.tagged name = .ok (some release) := by
    rcases findRelease_ok hrelease with ⟨-, hlatest⟩ | ⟨-, htagged⟩
    · exact .inl hlatest
    · exact .inr ⟨tag, htagged⟩
  exact ⟨release, platform, asset, hlisted, rfl, hplatform, hasset, hdownload⟩

lemma files_activity (call : Call) (s : Surroundings) :
    ((call.activity toolchain).run s).2.files =
      (call.deed toolchain s).filesAfter toolchain s := by
  cases call with
  | install tag => rfl
  | checkForUpdate => exact files_checkForUpdate toolchain s

/-- **An installation in which the file system refuses nothing** keeps the toolchain consistent: it
changes nothing, or it installs a release of its feed. -/
lemma Consistent.install (h : Consistent toolchain feeds s.files) (hfeed : s.feed ∈ feeds)
    (hsmooth : (Deed.install tag).smooth toolchain s) :
    Consistent toolchain feeds ((toolchain.install tag).run s).2.files := by
  rcases hrun : (toolchain.install tag).run s with ⟨result, s'⟩
  have hinstallation := installation_of_install hrun
  simp only [Deed.smooth, hrun] at hsmooth
  generalize s'.files = after at hinstallation ⊢
  cases hinstallation with
  | refused hfetch => exact h
  | unplaced hfetch hplace => cases hsmooth
  | unrecorded hfetch hplace hrecord => cases hsmooth
  | installed hfetch hplace hrecord =>
    exact .installed (holds_of_install hplace hrecord) hfeed (offers_of_fetch hfetch)

/-- **Putting off a release** keeps a consistent toolchain consistent: there is an installed release
then, and it is another one. -/
lemma Consistent.putOff (h : Consistent toolchain feeds s.files)
    (hdeed : toolchain.checkDeed s = .putOff tag)
    (hsmooth : (Deed.putOff tag).smooth toolchain s) :
    Consistent toolchain feeds
      (InstallState.update (recordIgnored tag) s.files toolchain.storage).1 := by
  obtain ⟨hbinary, hsettled⟩ := of_checkDeed_putOff hdeed
  rcases hrecord : InstallState.update (recordIgnored tag) s.files toolchain.storage
    with ⟨after, result⟩
  simp only [Deed.smooth, hrecord] at hsmooth
  cases result with
  | error e => cases hsmooth
  | ok state =>
    cases h with
    | bare hnone hrecorded => simp [isFile, hnone] at hbinary
    | @installed current _ _ _ hholds hfeed hoffers =>
      rw [hholds.recorded] at hsettled
      have hother : tag ≠ current := by
        rintro rfl
        simp [settled] at hsettled
      exact .installed (hholds.putOff hother hrecord) hfeed hoffers

/-- **One occasion** keeps the toolchain consistent. -/
lemma Consistent.step (h : Consistent toolchain feeds files) {occasion : Occasion}
    (hfeed : occasion.feed ∈ feeds)
    (hsmooth : (occasion.call.deed toolchain (occasion.surroundings files)).smooth toolchain
      (occasion.surroundings files)) :
    Consistent toolchain feeds (occasion.filesAfter toolchain files) := by
  rw [Occasion.filesAfter, files_activity]
  cases hdeed : occasion.call.deed toolchain (occasion.surroundings files) with
  | nothing => exact h
  | install tag =>
    rw [hdeed] at hsmooth
    exact Consistent.install h hfeed hsmooth
  | putOff tag =>
    rw [hdeed] at hsmooth
    cases hcall : occasion.call with
    | install tag =>
      rw [hcall] at hdeed
      cases hdeed
    | checkForUpdate =>
      rw [hcall] at hdeed
      exact Consistent.putOff h hdeed hsmooth

/-- **A whole history** keeps the toolchain consistent. -/
lemma Consistent.history {occasions : List Occasion} (h : Consistent toolchain feeds files)
    (hfeeds : ∀ occasion ∈ occasions, occasion.feed ∈ feeds)
    (hsmooth : toolchain.smooth files occasions) :
    Consistent toolchain feeds (toolchain.filesAfter files occasions) := by
  induction occasions generalizing files with
  | nil => exact h
  | cons occasion rest ih =>
    simp only [smooth, Bool.and_eq_true] at hsmooth
    have hstep := h.step (hfeeds occasion List.mem_cons_self) hsmooth.1
    exact ih hstep (fun other hother => hfeeds other (List.mem_cons_of_mem _ hother)) hsmooth.2

/-! ## An empty storage directory -/

lemma consistent_of_vacant (hempty : files.Vacant (files.placeOf toolchain.storage)) :
    Consistent toolchain feeds files := by
  refine .bare (file?_child_eq_none plain_binaryName (hempty binaryName [])) ?_
  have hfile : files.file? (InstallState.file toolchain.storage) = none :=
    file?_child_eq_none InstallState.plain_fileName (hempty InstallState.fileName [])
  rw [Toolchain.state, InstallState.load, readText?, hfile]
  rfl

/-- **The storage directory agrees with itself over every history** that begins with an empty one
and in which the file system refuses nothing.  A release is recorded as installed if and only if the
binary is there.  The binary is then what a feed of the history handed out for a release with the
recorded tag, it may be run, and no partial download is left.  The unwanted release is never the
installed one. -/
theorem history_agrees (toolchain : Toolchain) (start : FileTree) (occasions : List Occasion)
    (hempty : start.Vacant (start.placeOf toolchain.storage))
    (hsmooth : toolchain.smooth start occasions) :
    ((∃ tag, (toolchain.state (toolchain.filesAfter start occasions)).installed = some tag) ↔
        (toolchain.filesAfter start occasions).isFile toolchain.managed) ∧
      (∀ tag, (toolchain.state (toolchain.filesAfter start occasions)).installed = some tag →
        (∃ content,
          (toolchain.filesAfter start occasions).file? toolchain.managed =
              some ⟨content, true⟩ ∧
            ∃ occasion ∈ occasions, Offers toolchain occasion.feed tag content) ∧
        ¬ (toolchain.filesAfter start occasions).isFile toolchain.partialDownload) ∧
      ∀ tag, (toolchain.state (toolchain.filesAfter start occasions)).ignored = some tag →
        (toolchain.state (toolchain.filesAfter start occasions)).installed ≠ some tag := by
  have hconsistent : Consistent toolchain (occasions.map Occasion.feed)
      (toolchain.filesAfter start occasions) :=
    (consistent_of_vacant hempty).history (fun _ h => List.mem_map_of_mem h) hsmooth
  generalize toolchain.filesAfter start occasions = files at hconsistent ⊢
  cases hconsistent with
  | bare hbinary hrecorded => simp [hrecorded, InstallState.empty, isFile, hbinary]
  | installed hholds hfeed hoffers =>
    obtain ⟨occasion, hoccasion, rfl⟩ := List.mem_map.1 hfeed
    rw [hholds.recorded]
    refine ⟨?_, ?_, ?_⟩
    · simp [isFile, hholds.binary]
    · rintro tag ⟨⟩
      refine ⟨⟨_, hholds.binary, occasion, hoccasion, hoffers⟩, ?_⟩
      simp [isFile, hholds.noPartial]
    · rintro tag htag ⟨⟩
      exact hholds.wanted htag

/-- An occasion with one release on offer and one answer of the user. -/
def occasionOn (call : Call) (release answer : String) : Occasion where
  call := call
  feed := (offering release []).feed
  editor := .fresh [.ofText (some answer)] false
  downloads := 0
  compilations := 0
  cancelled := false
  interrupted _ := false

/-- A release is installed, the next one is put off, and the one after that is installed. -/
def updates : List Occasion :=
  [occasionOn (.install latestTag) "v1" "", occasionOn .checkForUpdate "v2" later,
    occasionOn .checkForUpdate "v3" updateNow]

theorem history_agrees_updates :
    (atStorage "/store").smooth .empty updates ∧
      (∃ content,
        ((atStorage "/store").filesAfter .empty updates).file? (atStorage "/store").managed =
            some ⟨content, true⟩ ∧
          ∃ occasion ∈ updates, Offers (atStorage "/store") occasion.feed "v3" content) ∧
      ¬ ((atStorage "/store").filesAfter .empty updates).isFile
        (atStorage "/store").partialDownload := by
  have hempty : FileTree.empty.Vacant (FileTree.empty.placeOf (atStorage "/store").storage) := by
    intro name below
    simp [FileTree.empty, node?]
  have hsmooth : (atStorage "/store").smooth .empty updates := by decide +kernel
  have hinstalled : ((atStorage "/store").state
      ((atStorage "/store").filesAfter .empty updates)).installed = some "v3" := by
    decide +kernel
  obtain ⟨-, hbinary, -⟩ := history_agrees (atStorage "/store") .empty updates hempty hsmooth
  exact ⟨hsmooth, hbinary "v3" hinstalled⟩

end Toolchain

end LanguageServer
