import Mathlib.Tactic.Common
import LanguageServer.Proofs.Host.Work
import LanguageServer.Proofs.Toolchain.History

/-!
# Answered checks are not repeated

A check that finds something to say asks the user a question.  Once the question is answered, by
putting the release off or by installing one, the answer is recorded in the storage directory, and
no later check asks again as long as the newest release is the same.

What a check says is told by `Toolchain.checkTalk` from the surroundings that it starts in, next to
what it does (`Toolchain.checkDeed`).  A storage directory is `Toolchain.Quiet` when the compiler is
there and the newest release is installed or unwanted: a check then changes nothing at all
(`Toolchain.Quiet.run`).  An answered check leaves a quiet storage directory
(`Toolchain.Answered.quiet`), and `Toolchain.answered_check_is_not_repeated` draws the conclusion
for any number of later checks.
-/

namespace LanguageServer

open Text FileTree

/-- A release that is asked for by a tag has that tag. -/
def Feed.NamesByTag (feed : Feed) : Prop :=
  ∀ tag release, feed.tagged tag = .ok (some release) → release.tag = tag

/-- The newest release, where it can be had, is that of the other feed. -/
def Feed.SameNewest (feed other : Feed) : Prop :=
  ∀ release, feed.latest = .ok (some release) → other.latest = .ok (some release)

lemma Feed.namesByTag_ofList (releases : List Release) (asset : String → Content)
    (failure : Feed.Request → Option String) : (Feed.ofList releases asset failure).NamesByTag := by
  intro tag release h
  simp only [Feed.ofList] at h
  split at h
  · cases h
  · have hfound : releases.find? (·.tag == tag) = some release := Except.ok.inj h
    simpa using List.find?_some hfound

namespace Toolchain

variable {toolchain : Toolchain} {tag : String} {s : Surroundings} {files : FileTree}

/-! ## What a check says -/

/-- The question whether a missing compiler shall be installed. -/
def installQuestion : Event :=
  .prompt "Aelys executable is missing. Download it to run scripts?" [installLatest]

/-- The question whether a release shall be installed. -/
def updateQuestion (tag : String) : Event :=
  .prompt ("A new version of Aelys is available (" ++ tag ++ ").") [updateNow, later]

/-- The message that a release was installed. -/
def installedMessage (tag : String) : Event :=
  .info ("Aelys " ++ tag ++ " installed successfully!")

/-- What is said about the result of an installation, with the files as they are then. -/
def resultTalk (toolchain : Toolchain) (files : FileTree) :
    Except InstallError String → List Event
  | .ok tag => [installedMessage tag, .status (toolchain.statusText files)]
  | .error .cancelled => []
  | .error e => [.error ("Failed to install Aelys: " ++ e.message)]

/-- What is said while a deed is done. -/
def Deed.talk (toolchain : Toolchain) (s : Surroundings) : Deed → List Event
  | .nothing => []
  | .install tag =>
    [.progressBegin s.editor.works ("Aelys: Installing " ++ tag ++ "..."),
        .progressReport s.editor.works ("Downloading " ++ tag ++ "..."),
        .progressEnd s.editor.works] ++
      toolchain.resultTalk ((toolchain.install tag).run s).2.files ((toolchain.install tag).run s).1
  | .putOff _ => []

/-- What a check says. -/
def checkTalk (toolchain : Toolchain) (s : Surroundings) : List Event :=
  let reply := s.editor.takeReply.1
  if toolchain.compiler.isSome then []
  else if toolchain.hasBinary s.files then
    match s.feed.latest with
    | .ok (some release) =>
      if settled (toolchain.state s.files) release.tag then []
      else updateQuestion release.tag :: (updateDeed release.tag reply).talk toolchain s
    | _ => []
  else installQuestion :: (installDeed reply).talk toolchain s

lemma events_announce (toolchain : Toolchain) (result : Except InstallError String)
    (s : Surroundings) : ((toolchain.announce result).run s).2.editor.events =
      s.editor.events ++ toolchain.resultTalk s.files result := by
  cases result with
  | ok tag => exact List.append_assoc _ _ _
  | error e =>
    cases e with
    | cancelled => exact (List.append_nil _).symm
    | _ => rfl

/-- What is said during a deed depends on the editor by the number of the next work only. -/
lemma talk_editor (deed : Deed) (s : Surroundings) {editor : Editor}
    (hworks : editor.works = s.editor.works) :
    deed.talk toolchain { s with editor } = deed.talk toolchain s := by
  cases deed with
  | nothing => rfl
  | putOff tag => rfl
  | install tag => simp only [Deed.talk, install_editor, hworks]

lemma events_installWithProgress (toolchain : Toolchain) (tag : String) (s : Surroundings) :
    ((toolchain.installWithProgress tag).run s).2.editor.events =
      s.editor.events ++ (Deed.install tag).talk toolchain s := by
  set begun := (s.editor.beginWork ("Aelys: Installing " ++ tag ++ "...")).2 with hbegun
  set editor := begun.tell
    (.progressReport s.editor.works ("Downloading " ++ tag ++ "...")) with heditor
  have hbegin := (Editor.beginWork_events s.editor ("Aelys: Installing " ++ tag ++ "...")).1
  calc ((toolchain.installWithProgress tag).run s).2.editor.events
      = (((toolchain.install tag).run { s with editor }).2.editor.tell
            (.progressEnd s.editor.works)).events ++
          toolchain.resultTalk ((toolchain.install tag).run { s with editor }).2.files
            ((toolchain.install tag).run { s with editor }).1 := events_announce toolchain _ _
    _ = s.editor.events ++ (Deed.install tag).talk toolchain s := by
      rw [install_editor]
      simp [Editor.tell, heditor, hbegun, hbegin, Deed.talk]

lemma events_install_asked (toolchain : Toolchain) (tag : String) (question : Event)
    (s : Surroundings) :
    ((toolchain.installWithProgress tag).run
        { s with editor := (s.editor.ask question).2 }).2.editor.events =
      s.editor.events ++ question :: (Deed.install tag).talk toolchain s := by
  obtain ⟨hevents, hworks⟩ := Editor.ask_events s.editor question
  rw [events_installWithProgress, talk_editor _ s hworks, hevents, List.append_assoc,
    List.singleton_append]

lemma events_offerInstall (toolchain : Toolchain) (s : Surroundings) :
    (toolchain.offerInstall.run s).2.editor.events = s.editor.events ++
      installQuestion :: (installDeed s.editor.takeReply.1).talk toolchain s := by
  have hask := run_ask installQuestion s
  unfold installQuestion at hask
  simp only [offerInstall, StateT.run_bind, hask, installDeed]
  by_cases hreply : s.editor.takeReply.1.choice = some installLatest
  · simp only [bind, hreply, if_true]
    exact events_install_asked toolchain _ installQuestion s
  · simp only [bind, hreply, if_false]
    exact (Editor.ask_events s.editor installQuestion).1

lemma events_offerUpdate (toolchain : Toolchain) (tag : String) (s : Surroundings) :
    ((toolchain.offerUpdate tag).run s).2.editor.events = s.editor.events ++
      updateQuestion tag :: (updateDeed tag s.editor.takeReply.1).talk toolchain s := by
  have hask := run_ask (updateQuestion tag) s
  unfold updateQuestion at hask
  simp only [offerUpdate, StateT.run_bind, hask, updateDeed]
  by_cases hnow : s.editor.takeReply.1.choice = some updateNow
  · simp only [bind, hnow, if_true]
    exact events_install_asked toolchain _ (updateQuestion tag) s
  · by_cases hlater : s.editor.takeReply.1.choice = some later
    · simp only [bind, hlater, if_true]
      exact (Editor.ask_events s.editor (updateQuestion tag)).1
    · simp only [bind, hnow, hlater, if_false]
      exact (Editor.ask_events s.editor (updateQuestion tag)).1

/-- **What a check says** is what is added to the events. -/
lemma events_checkForUpdate (toolchain : Toolchain) (s : Surroundings) :
    (toolchain.checkForUpdate.run s).2.editor.events =
      s.editor.events ++ toolchain.checkTalk s := by
  rw [run_checkForUpdate, checkTalk]
  split
  · exact (List.append_nil _).symm
  · split
    · rcases s.feed.latest with message | _ | release
      · exact (List.append_nil _).symm
      · exact (List.append_nil _).symm
      · dsimp only
        split
        · exact (List.append_nil _).symm
        · exact events_offerUpdate ..
    · exact events_offerInstall ..

/-! ## Quiet storage directories -/

/-- The compiler is there, and the newest release is installed or unwanted. -/
structure Quiet (toolchain : Toolchain) (feed : Feed) (files : FileTree) : Prop where
  hasBinary : toolchain.hasBinary files = true
  settled : ∀ release, feed.latest = .ok (some release) →
    settled (toolchain.state files) release.tag = true

lemma Quiet.sameNewest {feed other : Feed} (h : Quiet toolchain other files)
    (hsame : feed.SameNewest other) : Quiet toolchain feed files :=
  ⟨h.hasBinary, fun release hrelease => h.settled release (hsame release hrelease)⟩

/-- **In a quiet storage directory a check changes nothing**, and says nothing. -/
lemma Quiet.run (h : Quiet toolchain s.feed s.files) :
    toolchain.checkForUpdate.run s = ((), s) := by
  rw [run_checkForUpdate, if_pos h.hasBinary]
  split
  · rfl
  · split
    next release hrelease => rw [if_pos (h.settled release hrelease)]
    · rfl

/-- Without a newest release every storage directory with a compiler is quiet. -/
lemma quiet_of_latest_ne (hbinary : toolchain.hasBinary files = true) {feed : Feed}
    (hlatest : ∀ release, feed.latest ≠ .ok (some release)) : Quiet toolchain feed files :=
  ⟨hbinary, fun release hrelease => absurd hrelease (hlatest release)⟩

/-- A release that is fetched as the newest one, or by the tag of the newest one, has its tag. -/
lemma newest_of_fetch {feed : Feed} {stops : Wait → Bool} {wanted : String} {release : Release}
    {content : Content} (hfeed : feed.NamesByTag)
    (hfetch : toolchain.fetch feed stops wanted = .ok (release, content))
    (hwanted : wanted = latestTag ∨
      ∃ newest, feed.latest = .ok (some newest) ∧ newest.tag = wanted)
    (newest : Release) (hnewest : feed.latest = .ok (some newest)) : newest.tag = release.tag := by
  obtain ⟨platform, asset, -, hrelease, -, -⟩ := fetch_ok hfetch
  rcases findRelease_ok hrelease with ⟨-, hlatest⟩ | ⟨hother, htagged⟩
  · cases hlatest.symm.trans hnewest
    rfl
  · rcases hwanted with hwanted | ⟨same, hsame, htag⟩
    · exact absurd hwanted hother
    · cases hsame.symm.trans hnewest
      rw [htag, hfeed wanted release htagged]

/-- **Installing the newest release** leaves a quiet storage directory. -/
lemma quiet_of_install {wanted installed : String} (hcompiler : toolchain.compiler = none)
    (hfeed : s.feed.NamesByTag)
    (hwanted : wanted = latestTag ∨
      ∃ release, s.feed.latest = .ok (some release) ∧ release.tag = wanted)
    (hresult : ((toolchain.install wanted).run s).1 = .ok installed) :
    Quiet toolchain s.feed ((toolchain.install wanted).run s).2.files := by
  rcases hrun : (toolchain.install wanted).run s with ⟨result, s'⟩
  have hinstallation := installation_of_install hrun
  rw [hrun] at hresult
  dsimp only at hresult ⊢
  generalize s'.files = after at hinstallation ⊢
  cases hinstallation with
  | refused => cases hresult
  | unplaced => cases hresult
  | unrecorded => cases hresult
  | @installed release content placed after state hfetch hplace hrecord =>
    have hholds := holds_of_install hplace hrecord
    refine ⟨?_, fun newest hnewest => ?_⟩
    · simp [hasBinary, binary, hcompiler, isFile, hholds.binary]
    · have htag : newest.tag = release.tag := newest_of_fetch hfeed hfetch hwanted newest hnewest
      simp [Toolchain.settled, hholds.recorded, htag]

/-- **Putting off the newest release** leaves a quiet storage directory. -/
lemma quiet_of_putOff {release : Release} {after : FileTree} {state : InstallState} {feed : Feed}
    (hcompiler : toolchain.compiler = none) (hbinary : toolchain.hasBinary files = true)
    (hlatest : feed.latest = .ok (some release))
    (hrecord : InstallState.update (recordIgnored release.tag) files toolchain.storage =
      (after, .ok state)) : Quiet toolchain feed after := by
  obtain ⟨rfl, hsave⟩ := InstallState.save_of_update hrecord
  obtain ⟨hevolves, -⟩ := InstallState.save_ok hsave
  rw [hasBinary, binary, hcompiler, Option.getD_none, isFile] at hbinary
  obtain ⟨file, hfile⟩ := Option.isSome_iff_exists.mp hbinary
  have hreaches := reaches_of_file? plain_binaryName hfile
  refine ⟨?_, fun newest hnewest => ?_⟩
  · have hkept := hevolves.file?_child hreaches plain_binaryName (by decide)
    rw [hasBinary, binary, hcompiler, Option.getD_none, isFile]
    exact (congrArg Option.isSome hkept).trans hbinary
  · rw [hlatest] at hnewest
    cases hnewest
    rw [Toolchain.state, InstallState.load_of_save hsave]
    simp [Toolchain.settled, recordIgnored]

/-! ## Answers -/

/-- The check ended with an answer of the user. -/
inductive Answered (toolchain : Toolchain) (s : Surroundings) : Prop where
  /-- The user was asked about a release and put it off. -/
  | putOff {tag : String}
    (hasked : (toolchain.checkForUpdate.run s).2.editor.events =
      s.editor.events ++ [updateQuestion tag])
    (hreply : s.editor.takeReply.1.choice = some later)
  /-- The user was told that a release was installed. -/
  | installed {tag : String}
    (htold : installedMessage tag ∈
      (toolchain.checkForUpdate.run s).2.editor.events.drop s.editor.events.length)

/-- The ways of a check: what it says, and what it does. -/
inductive Check (toolchain : Toolchain) (s : Surroundings) : List Event → Deed → Prop where
  /-- There is nothing to say. -/
  | silent : Check toolchain s [] .nothing
  /-- The compiler is missing. -/
  | missing (hcompiler : toolchain.compiler = none) :
    Check toolchain s
      (installQuestion :: (installDeed s.editor.takeReply.1).talk toolchain s)
      (installDeed s.editor.takeReply.1)
  /-- The newest release is neither installed nor unwanted. -/
  | offered {release : Release} (hcompiler : toolchain.compiler = none)
    (hbinary : toolchain.hasBinary s.files = true)
    (hlatest : s.feed.latest = .ok (some release)) :
    Check toolchain s
      (updateQuestion release.tag ::
        (updateDeed release.tag s.editor.takeReply.1).talk toolchain s)
      (updateDeed release.tag s.editor.takeReply.1)

lemma check_of_run (toolchain : Toolchain) (s : Surroundings) :
    Check toolchain s (toolchain.checkTalk s) (toolchain.checkDeed s) := by
  rw [checkTalk, checkDeed]
  split
  · exact .silent
  next hcompiler =>
    rw [Option.not_isSome_iff_eq_none] at hcompiler
    split
    next hbinary =>
      rcases hlatest : s.feed.latest with message | _ | release
      · exact .silent
      · exact .silent
      · dsimp only
        split
        · exact .silent
        · exact .offered hcompiler hbinary hlatest
    · exact .missing hcompiler

lemma result_of_told {deed : Deed} (h : installedMessage tag ∈ deed.talk toolchain s) :
    ∃ wanted installed, deed = .install wanted ∧
      ((toolchain.install wanted).run s).1 = .ok installed := by
  cases deed with
  | nothing => cases h
  | putOff tag => cases h
  | install wanted =>
    cases hresult : ((toolchain.install wanted).run s).1 with
    | ok installed => exact ⟨wanted, installed, rfl, hresult⟩
    | error e =>
      simp only [Deed.talk, hresult, installedMessage] at h
      cases e <;> simp [resultTalk] at h

lemma wanted_of_installDeed {reply : Reply} {wanted : String}
    (h : installDeed reply = .install wanted) : wanted = latestTag := by
  unfold installDeed at h
  split at h
  · cases h
    rfl
  · cases h

lemma wanted_of_updateDeed {reply : Reply} {wanted : String}
    (h : updateDeed tag reply = .install wanted) : tag = wanted := by
  unfold updateDeed at h
  split at h
  · cases h
    rfl
  · split at h <;> cases h

/-- A check that ended with the wish to put a release off has put off the newest one. -/
lemma Check.putOff {talk : List Event} {deed : Deed} (h : Check toolchain s talk deed)
    (hasked : talk = [updateQuestion tag]) (hreply : s.editor.takeReply.1.choice = some later) :
    ∃ release, toolchain.compiler = none ∧ toolchain.hasBinary s.files = true ∧
      s.feed.latest = .ok (some release) ∧ deed = .putOff release.tag := by
  cases h with
  | silent => cases hasked
  | missing => simp [installQuestion, updateQuestion] at hasked
  | @offered release hcompiler hbinary hlatest =>
    refine ⟨release, hcompiler, hbinary, hlatest, ?_⟩
    rw [updateDeed, hreply, if_neg (by decide), if_pos rfl]

/-- A check that told of an installation has installed the newest release. -/
lemma Check.installed {talk : List Event} {deed : Deed} (h : Check toolchain s talk deed)
    (htold : installedMessage tag ∈ talk) :
    ∃ wanted installed, toolchain.compiler = none ∧ deed = .install wanted ∧
      ((toolchain.install wanted).run s).1 = .ok installed ∧
      (wanted = latestTag ∨
        ∃ release, s.feed.latest = .ok (some release) ∧ release.tag = wanted) := by
  cases h with
  | silent => cases htold
  | missing hcompiler =>
    rcases List.mem_cons.mp htold with hquestion | htold
    · cases hquestion
    · obtain ⟨wanted, installed, hdeed, hresult⟩ := result_of_told htold
      exact ⟨wanted, installed, hcompiler, hdeed, hresult, .inl (wanted_of_installDeed hdeed)⟩
  | offered hcompiler hbinary hlatest =>
    rcases List.mem_cons.mp htold with hquestion | htold
    · cases hquestion
    · obtain ⟨wanted, installed, hdeed, hresult⟩ := result_of_told htold
      exact ⟨wanted, installed, hcompiler, hdeed, hresult,
        .inr ⟨_, hlatest, wanted_of_updateDeed hdeed⟩⟩

/-- **An answered check leaves a quiet storage directory**, unless the answer could not be
recorded. -/
lemma Answered.quiet (h : Answered toolchain s) (hfeed : s.feed.NamesByTag)
    (hsmooth : (toolchain.checkDeed s).smooth toolchain s = true) :
    Quiet toolchain s.feed (toolchain.checkForUpdate.run s).2.files := by
  have hcheck := check_of_run toolchain s
  rw [files_checkForUpdate]
  cases h with
  | putOff hasked hreply =>
    rw [events_checkForUpdate, List.append_cancel_left_eq] at hasked
    obtain ⟨release, hcompiler, hbinary, hlatest, hdeed⟩ := hcheck.putOff hasked hreply
    rw [hdeed] at hsmooth ⊢
    rcases hrecord : InstallState.update (recordIgnored release.tag) s.files toolchain.storage
      with ⟨after, result⟩
    simp only [Deed.smooth, hrecord] at hsmooth
    simp only [Deed.filesAfter, hrecord]
    cases result with
    | error e => cases hsmooth
    | ok state => exact quiet_of_putOff hcompiler hbinary hlatest hrecord
  | installed htold =>
    rw [events_checkForUpdate, List.drop_left] at htold
    obtain ⟨wanted, installed, hcompiler, hdeed, hresult, hwanted⟩ := hcheck.installed htold
    rw [hdeed]
    exact quiet_of_install hcompiler hfeed hwanted hresult

/-! ## Later checks -/

/-- A check of a quiet storage directory leaves it as it is. -/
lemma Quiet.filesAfter {occasion : Occasion} (h : Quiet toolchain occasion.feed files)
    (hcall : occasion.call = .checkForUpdate) : occasion.filesAfter toolchain files = files := by
  have hrun := Quiet.run (s := occasion.surroundings files) h
  rw [Occasion.filesAfter, hcall, Call.activity, hrun]
  rfl

/-- **Any number of checks** of a quiet storage directory leave it as it is. -/
lemma Quiet.history {feed : Feed} {occasions : List Occasion} (h : Quiet toolchain feed files)
    (hchecks : ∀ occasion ∈ occasions,
      occasion.call = .checkForUpdate ∧ occasion.feed.SameNewest feed) :
    toolchain.filesAfter files occasions = files := by
  induction occasions with
  | nil => rfl
  | cons occasion rest ih =>
    obtain ⟨hcall, hsame⟩ := hchecks occasion List.mem_cons_self
    rw [Toolchain.filesAfter, List.foldl_cons, (h.sameNewest hsame).filesAfter hcall]
    exact ih fun other hother => hchecks other (List.mem_cons_of_mem occasion hother)

/-- **An answered check is not repeated.**  After a check that ended with the wish to put the
release off or with an installation, and whose writes did not fail, any number of further checks for
which the newest release is the same leave everything as it is: no event, no download and no change
of a file.  Where the compiler is there and no newest release can be had, a check does so from the
beginning. -/
theorem answered_check_is_not_repeated (toolchain : Toolchain) :
    (∀ s : Surroundings, Answered toolchain s → s.feed.NamesByTag →
      (toolchain.checkDeed s).smooth toolchain s = true →
        ∀ (earlier : List Occasion) (occasion : Occasion),
          (∀ check ∈ occasion :: earlier,
            check.call = .checkForUpdate ∧ check.feed.SameNewest s.feed) →
          toolchain.checkForUpdate.run (occasion.surroundings
              (toolchain.filesAfter (toolchain.checkForUpdate.run s).2.files earlier)) =
            ((), occasion.surroundings (toolchain.checkForUpdate.run s).2.files)) ∧
      ∀ s : Surroundings, toolchain.hasBinary s.files = true →
        (∀ release, s.feed.latest ≠ .ok (some release)) →
          toolchain.checkForUpdate.run s = ((), s) := by
  constructor
  · intro s hanswered hfeed hsmooth earlier occasion hchecks
    have hquiet := hanswered.quiet hfeed hsmooth
    obtain ⟨-, hsame⟩ := hchecks occasion List.mem_cons_self
    rw [hquiet.history fun check hcheck => hchecks check (List.mem_cons_of_mem occasion hcheck)]
    exact (hquiet.sameNewest hsame).run
  · intro s hbinary hlatest
    exact (quiet_of_latest_ne hbinary hlatest).run

/-- A release is installed and recorded. -/
def outdated : FileTree :=
  (offering "v1" [(["store"], .directory), (["store", "aelys"], .file ⟨.text "v1", true⟩),
    (["store", "state.json"], .file ⟨.text (InstallState.text ⟨some "v1", none⟩), false⟩)]).files

/-- A newer release is put off. -/
def postponed : Surroundings :=
  (occasionOn .checkForUpdate "v2" later).surroundings outdated

/-- The missing compiler is installed. -/
def firstInstalled : Surroundings :=
  (occasionOn .checkForUpdate "v2" installLatest).surroundings .empty

/-- A check with a user who would install the release. -/
def repeated : Occasion :=
  occasionOn .checkForUpdate "v2" updateNow

lemma namesByTag_repeated : repeated.feed.NamesByTag := by
  simp only [repeated, occasionOn, offering, Feed.namesByTag_ofList]

lemma check_of_mem_repeated {check : Occasion} (h : check ∈ [repeated, repeated, repeated]) :
    check.call = .checkForUpdate ∧ check.feed.SameNewest repeated.feed := by
  obtain rfl : check = repeated := by simpa using h
  exact ⟨rfl, fun _ hrelease => hrelease⟩

theorem answered_check_is_not_repeated_later :
    (((atStorage "/store").checkForUpdate.run postponed).2.editor.events =
        postponed.editor.events ++ [updateQuestion "v2"] ∧
      (atStorage "/store").checkForUpdate.run
          (repeated.surroundings ((atStorage "/store").filesAfter
            ((atStorage "/store").checkForUpdate.run postponed).2.files [repeated, repeated])) =
        ((), repeated.surroundings ((atStorage "/store").checkForUpdate.run postponed).2.files)) ∧
    installedMessage "v2" ∈
        ((atStorage "/store").checkForUpdate.run firstInstalled).2.editor.events.drop
          firstInstalled.editor.events.length ∧
      (atStorage "/store").checkForUpdate.run
          (repeated.surroundings ((atStorage "/store").filesAfter
            ((atStorage "/store").checkForUpdate.run firstInstalled).2.files
              [repeated, repeated])) =
        ((), repeated.surroundings
          ((atStorage "/store").checkForUpdate.run firstInstalled).2.files) := by
  obtain ⟨hrepeated, -⟩ := answered_check_is_not_repeated (atStorage "/store")
  have hasked : ((atStorage "/store").checkForUpdate.run postponed).2.editor.events =
      postponed.editor.events ++ [updateQuestion "v2"] := by
    decide +kernel
  have htold : installedMessage "v2" ∈
      ((atStorage "/store").checkForUpdate.run firstInstalled).2.editor.events.drop
        firstInstalled.editor.events.length := by
    decide +kernel
  constructor
  · exact ⟨hasked, hrepeated postponed (.putOff hasked (by decide)) namesByTag_repeated
      (by decide +kernel) _ _ fun _ => check_of_mem_repeated⟩
  · exact ⟨htold, hrepeated firstInstalled (.installed htold) namesByTag_repeated
      (by decide +kernel) _ _ fun _ => check_of_mem_repeated⟩

end Toolchain

end LanguageServer
