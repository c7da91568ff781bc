import Mathlib.Tactic.Common
import LanguageServer.Command
import LanguageServer.Proofs.Host.Work
import LanguageServer.Proofs.Toolchain.Update

/-!
# Every work of the server is ended

The server announces two kinds of work: the installation of a release, and the assembly of a script.
Both can fail in many ways, and a command can come to them by many ways: at once, after a question,
or because the compiler is missing.  Each conversation of the server leaves a tidy editor tidy, one
lemma for each, and so does every command by its name (`Command.tidy_call`).

The commands and checks of a session follow each other; everything around them may change in
between.  `every_work_is_ended` says what all the events of such a session look like.
-/

namespace LanguageServer

open Activity

/-! ## Conversations about the toolchain -/

namespace Toolchain

variable (toolchain : Toolchain) (tag : String)

/-- An installation does not talk to the editor. -/
lemma ensures_install {P : Editor → Prop} :
    Ensures P (toolchain.install tag) fun _ => P := by
  refine Ensures.of_editor_eq fun s => ?_
  exact congrArg (fun result => result.2.editor) (install_editor toolchain tag s s.editor)

lemma tidy_refreshStatus : Activity.Tidy toolchain.refreshStatus :=
  Tidy.get.bind fun _ => Tidy.setStatus _

lemma tidy_announce (result : Except InstallError String) :
    Activity.Tidy (toolchain.announce result) := by
  cases result with
  | ok tag =>
    exact (Tidy.tell rfl).bind fun _ => toolchain.tidy_refreshStatus.bind fun _ => Tidy.pure _
  | error e =>
    cases e with
    | cancelled => exact Tidy.pure _
    | _ => exact (Tidy.tell rfl).bind fun _ => Tidy.pure _

/-- **The work of an installation is ended**, whatever became of the installation. -/
lemma tidy_installWithProgress : Activity.Tidy (toolchain.installWithProgress tag) :=
  (Ensures.beginWork _).bind fun work =>
    (Ensures.report work _).bind fun _ =>
      (ensures_install toolchain tag).bind fun result =>
        (Ensures.finish work).bind fun _ => toolchain.tidy_announce result

lemma tidy_ensureBinary : Activity.Tidy toolchain.ensureBinary := by
  unfold ensureBinary
  refine Tidy.get.bind fun s => ?_
  split
  · exact Tidy.pure _
  · refine (Tidy.ask rfl).bind fun reply => ?_
    split
    · exact Tidy.pure _
    · refine (toolchain.tidy_installWithProgress _).bind fun installed => ?_
      cases installed with
      | none => exact Tidy.pure _
      | some tag =>
        refine Tidy.get.bind fun s => ?_
        split <;> exact Tidy.pure _

lemma tidy_offerInstall : Activity.Tidy toolchain.offerInstall := by
  unfold offerInstall
  refine (Tidy.ask rfl).bind fun reply => ?_
  split
  · exact (toolchain.tidy_installWithProgress _).bind fun _ => Tidy.pure _
  · exact Tidy.pure _

lemma tidy_offerUpdate : Activity.Tidy (toolchain.offerUpdate tag) := by
  unfold offerUpdate
  refine (Tidy.ask rfl).bind fun reply => ?_
  split
  · exact (toolchain.tidy_installWithProgress _).bind fun _ => Tidy.pure _
  · split
    · exact Ensures.of_editor_eq fun _ => rfl
    · exact Tidy.pure _

lemma tidy_checkForUpdate : Activity.Tidy toolchain.checkForUpdate := by
  intro s hs
  rw [run_checkForUpdate]
  split
  · exact hs
  · split
    · split
      · split
        · exact hs
        · exact toolchain.tidy_offerUpdate _ s hs
      · exact hs
    · exact toolchain.tidy_offerInstall s hs

end Toolchain

/-! ## Commands -/

namespace Command

variable (context : Context)

lemma tidy_requireScript (address : Option String) : Tidy (requireScript address) := by
  unfold requireScript
  dsimp only
  split
  · exact (Tidy.tell rfl).bind fun _ => Tidy.pure _
  · exact Tidy.pure _

lemma tidy_withCompiler (address : Option String) {use : Path → Path → Activity Unit}
    (huse : ∀ script binary, Tidy (use script binary)) :
    Tidy (withCompiler context address use) := by
  refine (tidy_requireScript address).bind fun found => ?_
  cases found with
  | none => exact Tidy.pure _
  | some script =>
    refine context.toolchain.tidy_ensureBinary.bind fun ensured => ?_
    cases ensured with
    | none => exact Tidy.pure _
    | some binary => exact huse script binary

lemma tidy_runScript (address : Option String) : Tidy (runScript context address) :=
  tidy_withCompiler context address fun _ _ => Tidy.sendToTerminal _ _ _

/-- The compiler does not talk to the editor. -/
lemma editor_assemble (further : String) (script binary : Path) (s : Surroundings) :
    ((assemble further script binary).run s).2.editor = s.editor :=
  rfl

/-- **The work of an assembly is ended**, also when the compiler failed or was stopped. -/
lemma tidy_showAssembly (further : String) (script binary : Path) :
    Tidy (showAssembly further script binary) := by
  refine (Ensures.beginWork _).bind fun work =>
    (Ensures.of_editor_eq (editor_assemble further script binary)).bind fun result =>
      (Ensures.finish work).bind fun _ => ?_
  cases result <;> exact Tidy.tell rfl

lemma tidy_inspectScript (address : Option String) (further : String) :
    Tidy (inspectScript context address further) :=
  tidy_withCompiler context address (tidy_showAssembly further)

lemma tidy_asmArguments? (arguments : List Json) : Tidy (asmArguments? context arguments) := by
  unfold asmArguments?
  split
  · exact Tidy.pure _
  · exact (Tidy.ask rfl).bind fun _ => Tidy.pure _

lemma tidy_startRepl : Tidy (startRepl context) := by
  refine context.toolchain.tidy_ensureBinary.bind fun ensured => ?_
  cases ensured with
  | none => exact Tidy.pure _
  | some binary => exact Tidy.sendToTerminal _ _ _

lemma tidy_sendText (text : String) : Tidy (sendText text) := by
  unfold sendText
  split
  · exact Tidy.tell rfl
  · exact Tidy.sendToTerminal _ _ _

lemma tidy_pickRelease (toolchain : Toolchain) (releases : List Release) :
    Tidy (pickRelease toolchain releases) := by
  unfold pickRelease
  refine (Tidy.ask rfl).bind fun reply => ?_
  split
  · exact Tidy.pure _
  · exact toolchain.tidy_installWithProgress _

lemma tidy_installRelease (toolchain : Toolchain) (tag : Option String) :
    Tidy (installRelease toolchain tag) := by
  unfold installRelease
  split
  · exact toolchain.tidy_installWithProgress _
  · refine Tidy.get.bind fun s => ?_
    split
    · exact (Tidy.tell rfl).bind fun _ => Tidy.pure _
    · exact tidy_pickRelease toolchain _
    · exact (Tidy.tell rfl).bind fun _ => Tidy.pure _

lemma tidy_execute (arguments : List Json) (command : Command) :
    Tidy (command.execute context arguments) := by
  cases command with
  | run => exact (tidy_runScript context _).bind fun _ => Tidy.pure _
  | inspect => exact (tidy_inspectScript context _ _).bind fun _ => Tidy.pure _
  | inspectWithArguments =>
    refine (tidy_asmArguments? context arguments).bind fun further => ?_
    cases further with
    | none => exact Tidy.pure _
    | some further => exact (tidy_inspectScript context _ _).bind fun _ => Tidy.pure _
  | openRepl => exact (tidy_startRepl context).bind fun _ => Tidy.pure _
  | sendToRepl => exact (tidy_sendText _).bind fun _ => Tidy.pure _
  | update => exact context.toolchain.tidy_installWithProgress _
  | installVersion => exact tidy_installRelease _ _
  | refreshStatus => exact context.toolchain.tidy_refreshStatus.bind fun _ => Tidy.pure _

/-- **Every command leaves a tidy editor tidy**, also one that there is not. -/
lemma tidy_call (name : String) (arguments : List Json) : Tidy (call context name arguments) := by
  unfold call
  split
  · exact Tidy.pure _
  · exact (tidy_execute context arguments _).bind fun _ => Tidy.pure _

end Command

/-! ## Sessions -/

/-- Something that the server is called for. -/
inductive Order where
  | command (context : Command.Context) (name : String) (arguments : List Json)
  | checkForUpdate (toolchain : Toolchain)

/-- The activity of an order. -/
def Order.activity : Order → Activity Unit
  | .command context name arguments => do let _ ← Command.call context name arguments
  | .checkForUpdate toolchain => toolchain.checkForUpdate

/-- An order, and everything around it but what the editor remembers. -/
structure Turn where
  order : Order
  files : FileTree
  feed : Feed
  replies : List Reply
  cancelled : Bool
  interrupted : Wait → Bool := fun _ => false

/-- The editor after the turn. -/
def Turn.take (editor : Editor) (turn : Turn) : Editor :=
  (turn.order.activity.run
    { files := turn.files
      feed := turn.feed
      editor := { editor with replies := turn.replies }
      downloads := 0
      cancelled := turn.cancelled
      interrupted := turn.interrupted }).2.editor

/-- All events of a session with an editor, one turn after the other. -/
def sessionEvents (confirmsWork : Bool) (turns : List Turn) : List Event :=
  (turns.foldl Turn.take (.fresh [] confirmsWork)).events

lemma Order.tidy_activity (order : Order) : Tidy order.activity := by
  cases order with
  | command context name arguments =>
    exact (Command.tidy_call context name arguments).bind fun _ => Tidy.pure _
  | checkForUpdate toolchain => exact toolchain.tidy_checkForUpdate

/-- **One turn** leaves a tidy editor tidy. -/
lemma Turn.tidy_take {editor : Editor} (h : editor.Tidy) (turn : Turn) :
    (turn.take editor).Tidy :=
  turn.order.tidy_activity _ ⟨h.worksEnd, h.work_lt⟩

/-- **Many turns** leave a tidy editor tidy. -/
lemma tidy_foldl_take {editor : Editor} (h : editor.Tidy) (turns : List Turn) :
    (turns.foldl Turn.take editor).Tidy := by
  induction turns generalizing editor with
  | nil => exact h
  | cons turn rest ih => exact ih (turn.tidy_take h)

/-- **Every work of a session is ended.**  For all orders one after the other, with any names and
arguments, and with any settings, files, releases, failures, interruptions and replies at each of
them: after the announcement of a work come reports on it and then its end, and no other event is
about this work.
The announced works are pairwise different, and no event is about a work that was not announced. -/
theorem every_work_is_ended (confirmsWork : Bool) (turns : List Turn) :
    (∀ before work title after,
      sessionEvents confirmsWork turns = before ++ .progressBegin work title :: after →
        ∃ (reports : List String) (rest : List Event),
          after = reports.map (.progressReport work) ++ .progressEnd work :: rest ∧
            ∀ event ∈ before ++ rest, event.work? ≠ some work) ∧
      ((sessionEvents confirmsWork turns).filterMap Event.announced?).Nodup ∧
      ∀ event ∈ sessionEvents confirmsWork turns, ∀ work, event.work? = some work →
        work ∈ (sessionEvents confirmsWork turns).filterMap Event.announced? := by
  have htidy := tidy_foldl_take (Editor.tidy_fresh [] confirmsWork) turns
  have hends : WorksEnd (sessionEvents confirmsWork turns) := htidy.worksEnd
  refine ⟨hends.ended, hends.nodup_announced, fun event hevent work hwork => ?_⟩
  obtain ⟨title, hannounced⟩ := hends.announced event hevent work hwork
  exact List.mem_filterMap.mpr ⟨_, hannounced, rfl⟩

/-- The newest release is to be installed, with the given releases on offer. -/
def updateTurn (releases : List Release) : Turn where
  order := .command ⟨Toolchain.atStorage "/store", .default, false⟩ "aelys.update" []
  files := .empty
  feed := .ofList releases .text fun _ => none
  replies := []
  cancelled := false

theorem every_work_is_ended_failure : ∃ (before after : List Event),
    sessionEvents false
        [updateTurn [⟨"v1", none, none, false, [⟨Platform.linuxX64.asset, "v1"⟩]⟩], updateTurn []] =
      before ++ .progressBegin 1 "Aelys: Installing latest..." :: after ∧
    ∃ (reports : List String) (rest : List Event),
      after = reports.map (.progressReport 1) ++ .progressEnd 1 :: rest ∧
        ∀ event ∈ before ++ rest, event.work? ≠ some 1 := by
  have hevents : sessionEvents false
        [updateTurn [⟨"v1", none, none, false, [⟨Platform.linuxX64.asset, "v1"⟩]⟩], updateTurn []] =
      [.progressBegin 0 "Aelys: Installing latest...", .progressReport 0 "Downloading latest...",
        .progressEnd 0, .info "Aelys v1 installed successfully!", .status "Aelys v1"] ++
      .progressBegin 1 "Aelys: Installing latest..." ::
        [.progressReport 1 "Downloading latest...", .progressEnd 1,
          .error "Failed to install Aelys: No releases found on GitHub."] := by
    decide +kernel
  exact ⟨_, _, hevents, (every_work_is_ended false _).1 _ _ _ _ hevents⟩

end LanguageServer
