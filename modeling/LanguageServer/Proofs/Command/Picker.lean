import Mathlib.Data.List.Nodup
import Mathlib.Tactic.Common
import LanguageServer.Proofs.Command.Declined
import LanguageServer.Proofs.Text.Split
import LanguageServer.Proofs.Toolchain.Answer

/-!
# The release that is picked

Without a tag, the command that installs a release lets the user pick one.  The pick comes back as
the line that described the release, which is looked for among the lines of all releases; the
release found is then installed by its tag.

Lines tell releases apart whose tags are distinct and hold no blank, because the tag is what stands
before the first blank (`Release.tag_eq_of_describe_eq`).  So the first step always finds the
release that was picked (`Command.run_installVersion`).  The second step does not: one tag stands
for the newest release, and a release that happens to bear this tag cannot be asked for by it.
`Command.picked_release_is_installed_iff` says that this is the only case in which another release
is installed.
-/

namespace LanguageServer

open Activity

/-! ## Lines that describe releases -/

namespace Release

variable {release other : Release} {releases : List Release}

lemma toList_describe (release : Release) : ∃ rest,
    release.describe.toList = release.tag.toList ++ ' ' :: rest := by
  have hblank : " (".toList = [' ', '('] := by decide
  simp only [describe, String.toList_append, hblank, List.append_assoc, List.cons_append]
  exact ⟨_, rfl⟩

/-- The tag of a release stands before the first blank of its line. -/
lemma tag_eq_of_describe_eq (h : release.describe = other.describe)
    (hblank : ' ' ∉ release.tag.toList) (hblank' : ' ' ∉ other.tag.toList) :
    release.tag = other.tag := by
  obtain ⟨rest, hline⟩ := release.toList_describe
  obtain ⟨rest', hline'⟩ := other.toList_describe
  rw [h, hline'] at hline
  exact String.toList_inj.1 (Text.separator_append_inj hline hblank' hblank).1.symm

/-- Releases that can be told apart by their tags, and their tags by what follows them. -/
structure Distinct (releases : List Release) : Prop where
  tags : (releases.map (·.tag)).Nodup
  blanks : ∀ release ∈ releases, ' ' ∉ release.tag.toList

lemma Distinct.eq_of_tag (h : Distinct releases) (hrelease : release ∈ releases)
    (hother : other ∈ releases) (htag : release.tag = other.tag) : release = other :=
  List.inj_on_of_nodup_map h.tags hrelease hother htag

/-- **A line leads back to its release.** -/
lemma Distinct.find?_describe (h : Distinct releases) (hrelease : release ∈ releases) :
    releases.find? (·.describe == release.describe) = some release := by
  cases hfound : releases.find? (·.describe == release.describe) with
  | none => exact absurd (List.find?_eq_none.1 hfound release hrelease) (by simp)
  | some found =>
    have hmem : found ∈ releases := List.mem_of_find?_eq_some hfound
    have hdescribe : found.describe = release.describe := by simpa using List.find?_some hfound
    have htag : found.tag = release.tag :=
      tag_eq_of_describe_eq hdescribe (h.blanks found hmem) (h.blanks release hrelease)
    rw [h.eq_of_tag hmem hrelease htag]

end Release

/-- The feed lists the releases, and whatever else it says is about them. -/
structure Feed.Lists (feed : Feed) (releases : List Release) : Prop where
  all : feed.all = .ok releases
  latest : ∀ release, feed.latest = .ok (some release) → release ∈ releases
  tagged : ∀ tag release, feed.tagged tag = .ok (some release) → release ∈ releases
  names : feed.NamesByTag

lemma Feed.lists_ofList {releases : List Release} {asset : String → Content}
    {failure : Feed.Request → Option String} (h : failure .all = none) :
    (Feed.ofList releases asset failure).Lists releases where
  all := by simp [ofList, h]
  latest release hlatest := by
    simp only [ofList] at hlatest
    split at hlatest
    · cases hlatest
    · exact List.mem_of_head? (Except.ok.inj hlatest)
  tagged tag release htagged := by
    simp only [ofList] at htagged
    split at htagged
    · cases htagged
    · exact List.mem_of_find?_eq_some (Except.ok.inj htagged)
  names := namesByTag_ofList releases asset failure

/-! ## What is installed -/

namespace Toolchain

variable {toolchain : Toolchain} {tag installed : String} {s : Surroundings}

/-- The release is installed, by what the feed has for it. -/
def HasInstalled (toolchain : Toolchain) (feed : Feed) (files : FileTree) (release : Release) :
    Prop :=
  ∃ platform asset content, toolchain.platform = some platform ∧
    release.asset? platform.asset = some asset ∧ feed.download asset.url = .ok content ∧
      Holds toolchain files release.tag none content

lemma hasInstalled_of_installWithProgress
    (h : ((toolchain.installWithProgress tag).run s).1 = some installed) :
    ∃ release, installed = release.tag ∧
      ((tag = latestTag ∧ s.feed.latest = .ok (some release)) ∨
        (tag ≠ latestTag ∧ s.feed.tagged tag = .ok (some release))) ∧
      HasInstalled toolchain s.feed ((toolchain.installWithProgress tag).run s).2.files
        release := by
  have hinstallation := installation_of_installWithProgress h
  generalize ((toolchain.installWithProgress tag).run s).2.files = after at hinstallation ⊢
  cases hinstallation with
  | @installed release content placed _ state hfetch hplace hrecord =>
    obtain ⟨platform, asset, hplatform, hrelease, hasset, hdownload⟩ := fetch_ok hfetch
    exact ⟨release, rfl, findRelease_ok hrelease, platform, asset, content, hplatform, hasset,
      hdownload, holds_of_install hplace hrecord⟩

end Toolchain

namespace Command

open Toolchain

variable {context : Context} {arguments : List Json} {s : Surroundings} {releases : List Release}
  {release : Release}

/-- The question which release shall be installed. -/
def releaseQuestion (releases : List Release) : Event :=
  .pick "Select Aelys version to install" (releases.map (·.describe))

/-- **The release that is picked is asked for by its tag.** -/
lemma run_installVersion (hlists : s.feed.Lists releases) (hdistinct : Release.Distinct releases)
    (harguments : textArgument? arguments 0 = none) (hrelease : release ∈ releases)
    (hpicked : s.editor.takeReply.1.choice = some release.describe) :
    (execute context arguments .installVersion).run s =
      (context.toolchain.installWithProgress release.tag).run
        (s.told [releaseQuestion releases]) := by
  have hpick : (pickRelease context.toolchain releases).run s =
      (context.toolchain.installWithProgress release.tag).run
        (s.told [releaseQuestion releases]) := by
    have hask := @run_ask_told (releaseQuestion releases) rfl s
    rw [releaseQuestion] at hask ⊢
    simp only [pickRelease, run_bind, hask, hpicked, Option.bind_some,
      hdistinct.find?_describe hrelease]
  rw [← hpick]
  simp only [execute, installRelease, harguments, run_bind, StateT.run_get, pure, hlists.all]
  split
  next hempty =>
    rw [Except.ok.inj hempty] at hrelease
    cases hrelease
  next found hfound => rw [Except.ok.inj hfound]
  next hfailed => cases hfailed

/-- **The release that is picked is installed, unless its tag stands for the newest one.**  Of
releases with distinct tags that hold no blank the user picks one, and an installation ends well.
The release picked is then the one returned, recorded and in place if and only if it is asked for by
its own tag, or is the newest.  Otherwise the newest is. -/
theorem picked_release_is_installed_iff (context : Context) (arguments : List Json)
    (s : Surroundings) (releases : List Release) (release : Release) (installed : String)
    (hlists : s.feed.Lists releases) (hdistinct : Release.Distinct releases)
    (harguments : textArgument? arguments 0 = none) (hrelease : release ∈ releases)
    (hpicked : s.editor.takeReply.1.choice = some release.describe)
    (hinstalled : ((call context "aelys.installVersion" arguments).run s).1 =
      .ok (some installed)) :
    ((installed = release.tag ∧
        HasInstalled context.toolchain s.feed
          ((call context "aelys.installVersion" arguments).run s).2.files release) ↔
      (release.tag = latestTag → s.feed.latest = .ok (some release))) ∧
    (release.tag = latestTag → ∃ newest, s.feed.latest = .ok (some newest) ∧
      installed = newest.tag ∧
        HasInstalled context.toolchain s.feed
          ((call context "aelys.installVersion" arguments).run s).2.files newest) := by
  have hname : ofName? "aelys.installVersion" = some .installVersion := by decide +kernel
  rw [run_call hname, run_installVersion hlists hdistinct harguments hrelease hpicked] at *
  obtain ⟨found, rfl, hfound, hhas⟩ :=
    hasInstalled_of_installWithProgress (Except.ok.inj hinstalled)
  refine ⟨⟨fun ⟨htag, _⟩ hspecial => ?_, fun hnewest => ?_⟩, fun hspecial => ?_⟩
  · obtain ⟨-, hlatest⟩ := hfound.resolve_right fun h => h.1 hspecial
    rw [← hdistinct.eq_of_tag (hlists.latest found hlatest) hrelease htag]
    exact hlatest
  · suffices hsame : found = release by
      subst hsame
      exact ⟨rfl, hhas⟩
    rcases hfound with ⟨hspecial, hlatest⟩ | ⟨-, htagged⟩
    · exact Option.some.inj (Except.ok.inj (hlatest.symm.trans (hnewest hspecial)))
    · exact hdistinct.eq_of_tag (hlists.tagged _ found htagged) hrelease
        (hlists.names _ found htagged)
  · obtain ⟨-, hlatest⟩ := hfound.resolve_right fun h => h.1 hspecial
    exact ⟨found, hlatest, rfl, hhas⟩

/-- A release whose asset is its own tag. -/
def dated (tag time : String) (isPreview : Bool) : Release :=
  ⟨tag, none, some time, isPreview, [⟨Platform.linuxX64.asset, tag⟩]⟩

/-- The releases are on offer, and the user picks a line. -/
def picking (releases : List Release) (line : String) : Surroundings :=
  { offering "" [] with
      feed := .ofList releases .text fun _ => none
      editor := .fresh [.ofText (some line)] false }

/-- A preview is picked whose tag begins like that of a later release. -/
theorem picked_release_is_installed_iff_preview :
    let preview := dated "v2.1" "2024-12-01T00:00:00Z" true
    let releases := [dated "v2" "2025-01-01T00:00:00Z" false, preview]
    let s := picking releases "v2.1 (2024-12-01, pre-release)"
    ((call plain "aelys.installVersion" []).run s).1 = .ok (some "v2.1") ∧
      HasInstalled plain.toolchain s.feed
        ((call plain "aelys.installVersion" []).run s).2.files preview := by
  intro preview releases s
  have hresult : ((call plain "aelys.installVersion" []).run s).1 = .ok (some "v2.1") := by
    decide +kernel
  have hlists : s.feed.Lists releases := @Feed.lists_ofList releases .text (fun _ => none) rfl
  obtain ⟨hiff, -⟩ := picked_release_is_installed_iff plain [] s releases preview "v2.1" hlists
    ⟨by decide, by decide⟩ rfl (by decide) (by decide +kernel) hresult
  exact ⟨hresult, (hiff.2 fun h => absurd h (by decide)).2⟩

/-- **Another release than the one picked may be installed**: the one picked bears the tag that
stands for the newest. -/
theorem picked_release_may_not_be_installed :
    ∃ releases, Release.Distinct releases ∧ ∃ release ∈ releases, ∃ newest ∈ releases,
      newest ≠ release ∧
      ((call plain "aelys.installVersion" []).run (picking releases release.describe)).1 =
        .ok (some newest.tag) :=
  ⟨[dated "v2" "2025-01-01T00:00:00Z" false, dated "latest" "2024-06-01T00:00:00Z" false],
    ⟨by decide, by decide⟩,
    dated "latest" "2024-06-01T00:00:00Z" false, by decide,
    dated "v2" "2025-01-01T00:00:00Z" false, by decide, by decide, by decide +kernel⟩

end Command

end LanguageServer
