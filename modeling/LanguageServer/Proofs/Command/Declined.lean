import Mathlib.Tactic.Common
import LanguageServer.Proofs.Command.Work
import LanguageServer.Proofs.Toolchain.Ensure

/-!
# A declined installation has no effect

Four commands need the compiler, and ask whether it shall be installed where it is missing.  A user
who does not agree has only been talked to: the events of the conversation are shown, each question
among them has taken its reply (`Surroundings.told`), and everything else is as it was.  In
particular no terminal is written to, no work begins, no compiler is called and no file changes.

`Declined` reads the user's decision off the conversation as it took place, whichever questions
came before.  For that, events must never be taken back (`Activity.Grows`): the question about the
compiler then still stands in what the command leaves.  That the same happens whatever the files
are, as long as the compiler is missing from them, and whatever the releases are, says that neither
is looked at.
-/

namespace LanguageServer

open Activity

/-! ## Questions and replies -/

/-- Does the event ask the user something? -/
def Event.isQuestion : Event → Bool
  | .prompt _ _ => true
  | .pick _ _ => true
  | .input _ _ => true
  | _ => false

/-- The questions among the events, each with the reply that it takes as long as no work is
announced in between.  A question without a reply counts as dismissed. -/
def answers (replies : List Reply) : List Event → List (Event × Reply)
  | [] => []
  | event :: rest =>
    if event.isQuestion then (event, replies.headD .dismissed) :: answers replies.tail rest
    else answers replies rest

/-- The surroundings after nothing but talk: the events are shown, and each question among them
takes a reply. -/
def Surroundings.told (s : Surroundings) (talk : List Event) : Surroundings :=
  { s with editor := { s.editor with
      events := s.editor.events ++ talk
      replies := s.editor.replies.drop (talk.countP Event.isQuestion) } }

lemma Surroundings.told_append (s : Surroundings) (talk more : List Event) :
    (s.told talk).told more = s.told (talk ++ more) := by
  simp [told, List.drop_drop]

lemma Editor.takeReply_fst (editor : Editor) :
    editor.takeReply.1 = editor.replies.headD .dismissed := by
  unfold takeReply
  cases editor.replies <;> rfl

lemma answers_append (replies : List Reply) (talk more : List Event) :
    answers replies (talk ++ more) =
      answers replies talk ++ answers (replies.drop (talk.countP Event.isQuestion)) more := by
  induction talk generalizing replies with
  | nil => rfl
  | cons event talk ih =>
    rw [List.cons_append, answers, answers]
    split
    next hevent =>
      have hdrop : replies.drop ((event :: talk).countP Event.isQuestion) =
          replies.tail.drop (talk.countP Event.isQuestion) := by
        rw [List.countP_cons_of_pos hevent, ← List.drop_one, List.drop_drop, Nat.add_comm]
      rw [ih, hdrop, List.cons_append]
    next hevent => rw [ih, List.countP_cons_of_neg hevent]

lemma run_ask_told {question : Event} (h : question.isQuestion = true) (s : Surroundings) :
    (ask question).run s = (s.editor.takeReply.1, s.told [question]) := by
  rw [Toolchain.run_ask]
  simp only [Surroundings.told, Editor.ask, Editor.takeReply, Editor.tell, List.countP_singleton, h]
  cases s.editor.replies <;> rfl

/-! ## Events stay -/

/-- The activity takes no event back. -/
def Activity.Grows {α : Type} (activity : Activity α) : Prop :=
  ∀ s : Surroundings, s.editor.events <+: (activity.run s).2.editor.events

namespace Activity.Grows

variable {α β : Type}

lemma pure (a : α) : Grows (Pure.pure a : Activity α) :=
  fun _ => List.prefix_rfl

lemma bind {activity : Activity α} {next : α → Activity β} (h : Grows activity)
    (hnext : ∀ a, Grows (next a)) : Grows (activity >>= next) :=
  fun s => (h s).trans (hnext _ _)

lemma get : Grows (MonadState.get : Activity Surroundings) :=
  fun _ => List.prefix_rfl

lemma tell (event : Event) : Grows (tell event) :=
  fun _ => List.prefix_append _ _

lemma beginWork (title : String) : Grows (beginWork title) := by
  intro s
  have hevents : ((Activity.beginWork title).run s).2.editor.events =
      s.editor.events ++ [.progressBegin s.editor.works title] :=
    (s.editor.beginWork_events title).1
  rw [hevents]
  exact List.prefix_append _ _

lemma setStatus (text : String) : Grows (withEditor (·.setStatus text)) :=
  fun _ => List.prefix_append _ _

lemma sendToTerminal (name text : String) (focus : Bool) :
    Grows (withEditor (·.sendToTerminal name text focus)) :=
  fun _ => List.prefix_append _ _

end Activity.Grows

namespace Toolchain

variable (toolchain : Toolchain)

lemma grows_install (tag : String) : Grows (toolchain.install tag) := by
  intro s
  have heditor : ((toolchain.install tag).run s).2.editor = s.editor :=
    congrArg (fun result => result.2.editor) (install_editor toolchain tag s s.editor)
  exact heditor ▸ List.prefix_rfl

lemma grows_announce (result : Except InstallError String) : Grows (toolchain.announce result) := by
  cases result with
  | ok tag =>
    exact (Grows.tell _).bind fun _ =>
      (Grows.get.bind fun _ => Grows.setStatus _).bind fun _ => Grows.pure _
  | error e =>
    cases e with
    | cancelled => exact Grows.pure _
    | _ => exact (Grows.tell _).bind fun _ => Grows.pure _

lemma grows_installWithProgress (tag : String) : Grows (toolchain.installWithProgress tag) :=
  (Grows.beginWork _).bind fun _ => (Grows.tell _).bind fun _ =>
    (toolchain.grows_install tag).bind fun result =>
      (Grows.tell _).bind fun _ => toolchain.grows_announce result

/-! ## A compiler that is missing -/

variable {toolchain} {s : Surroundings}

lemma asked_eq_told (s : Surroundings) : asked s = s.told [missingQuestion] := by
  have hask : (ask missingQuestion).run s = (s.editor.takeReply.1, asked s) := run_ask _ s
  exact (Prod.mk.inj (hask.symm.trans (run_ask_told rfl s))).2

/-- Where the compiler is missing the user is asked. -/
lemma prefix_ensureBinary (hmissing : toolchain.hasBinary s.files = false) :
    s.editor.events ++ [missingQuestion] <+: (toolchain.ensureBinary.run s).2.editor.events := by
  have hasked : s.editor.events ++ [missingQuestion] = (asked s).editor.events := by
    rw [asked_eq_told]
    rfl
  rw [run_ensureBinary, hmissing, hasked]
  simp only [Bool.false_eq_true, if_false]
  split
  · have hgrows := toolchain.grows_installWithProgress latestTag (asked s)
    split <;> simp_all
  · exact List.prefix_rfl

/-- **A declined installation** leaves nothing but the question. -/
lemma ensureBinary_of_declined (hmissing : toolchain.hasBinary s.files = false)
    (hdeclined : s.editor.takeReply.1.choice ≠ some installNow) :
    toolchain.ensureBinary.run s = (none, s.told [missingQuestion]) := by
  rw [run_ensureBinary, hmissing, asked_eq_told]
  simp only [Bool.false_eq_true, if_false, hdeclined]

end Toolchain

namespace Command

open Toolchain

variable {context : Context} {s : Surroundings} {address : Option String}
  {use : Path → Path → Activity Unit}

/-- The message that there is no script. -/
def noScript : Event := .error "Open an Aelys file to run it."

/-- What is said before a script is used by a compiler that is missing. -/
def scriptTalk (address : Option String) : List Event :=
  if (script? address).isSome then [missingQuestion] else [noScript]

lemma run_requireScript (address : Option String) (s : Surroundings) :
    (requireScript address).run s =
      (script? address, if (script? address).isSome then s else s.told [noScript]) := by
  unfold requireScript
  cases hscript : script? address with
  | none =>
    simp only [Option.isNone_none, if_true, run_bind]
    rfl
  | some script => rfl

/-- The compiler is used if there is a script and a compiler. -/
lemma run_withCompiler (s : Surroundings) :
    (withCompiler context address use).run s =
      match script? address with
      | none => ((), s.told [noScript])
      | some script =>
        match context.toolchain.ensureBinary.run s with
        | (none, after) => ((), after)
        | (some binary, after) => (use script binary).run after := by
  unfold withCompiler
  rw [run_bind, run_requireScript]
  cases script? address with
  | none => rfl
  | some script =>
    simp only [Option.isSome_some, if_true]
    rw [run_bind]
    rcases context.toolchain.ensureBinary.run s with ⟨_ | binary, after⟩ <;> rfl

/-- **Without a compiler, and without an installation, nothing is done with a compiler**, whatever
it would be used for. -/
lemma withCompiler_of_declined (hmissing : context.toolchain.hasBinary s.files = false)
    (hdeclined : (script? address).isSome → s.editor.takeReply.1.choice ≠ some installNow) :
    (withCompiler context address use).run s = ((), s.told (scriptTalk address)) := by
  rw [run_withCompiler, scriptTalk]
  cases hscript : script? address with
  | none => rfl
  | some script =>
    rw [hscript] at hdeclined
    simp only [ensureBinary_of_declined hmissing (hdeclined rfl)]
    rfl

/-- Where there is a script and no compiler the user is asked. -/
lemma prefix_withCompiler (hmissing : context.toolchain.hasBinary s.files = false)
    (hscript : (script? address).isSome) (huse : ∀ script binary, Grows (use script binary)) :
    s.editor.events ++ [missingQuestion] <+:
      ((withCompiler context address use).run s).2.editor.events := by
  obtain ⟨script, hscript⟩ := Option.isSome_iff_exists.1 hscript
  have hasked := prefix_ensureBinary hmissing
  rw [run_withCompiler, hscript]
  rcases hensure : context.toolchain.ensureBinary.run s with ⟨_ | binary, after⟩
  · rw [hensure] at hasked
    exact hasked
  · rw [hensure] at hasked
    exact hasked.trans (huse script binary after)

/-! ## Commands -/

/-- The question for the further arguments of the compiler. -/
def argumentsQuestion (context : Context) : Event :=
  .input "Enter ASM generation arguments (e.g., -O3 -Wall)" context.settings.asmArguments

/-- Wherever the user is asked on the way whether a missing compiler shall be installed, the reply
is not to install it now. -/
def Declined (s after : Surroundings) : Prop :=
  ∀ talk reply, after.editor.events = s.editor.events ++ talk →
    (missingQuestion, reply) ∈ answers s.editor.replies talk → reply.choice ≠ some installNow

lemma Declined.choice {after : Surroundings} (h : Declined s after)
    (hasked : s.editor.events ++ [missingQuestion] <+: after.editor.events) :
    s.editor.takeReply.1.choice ≠ some installNow := by
  obtain ⟨more, hmore⟩ := hasked
  refine h (missingQuestion :: more) _ ?_ ?_
  · rw [← hmore, List.append_assoc]
    rfl
  · rw [Editor.takeReply_fst]
    exact List.mem_cons_self

/-- A conversation without an agreement has none after its beginning. -/
lemma Declined.of_told {after : Surroundings} {talk : List Event} (h : Declined s after) :
    Declined (s.told talk) after := by
  intro more reply hevents hreply
  refine h (talk ++ more) reply ?_ ?_
  · rw [hevents, ← List.append_assoc]
    rfl
  · rw [answers_append]
    exact List.mem_append_right _ hreply

/-- With this editor, and as long as the compiler is missing, the activity is nothing but talk. -/
def OnlyTalks {α : Type} (context : Context) (editor : Editor) (activity : Activity α) (result : α)
    (talk : List Event) : Prop :=
  ∀ s : Surroundings, s.editor = editor → context.toolchain.hasBinary s.files = false →
    activity.run s = (result, s.told talk)

lemma run_asmArguments? (context : Context) (arguments : List Json) (s : Surroundings) :
    (asmArguments? context arguments).run s =
      match textArgument? arguments 1 with
      | some given => (some given, s)
      | none => (s.editor.takeReply.1.entry, s.told [argumentsQuestion context]) := by
  unfold asmArguments?
  cases textArgument? arguments 1 with
  | some given => rfl
  | none =>
    have hask := @run_ask_told (argumentsQuestion context) rfl s
    rw [argumentsQuestion] at hask
    simp only [run_bind, hask]
    rfl

lemma grows_showAssembly (further : String) (script binary : Path) :
    Grows (showAssembly further script binary) := by
  have hassemble : Grows (assemble further script binary) :=
    fun s => editor_assemble further script binary s ▸ List.prefix_rfl
  refine (Grows.beginWork _).bind fun work => hassemble.bind fun result =>
    (Grows.tell _).bind fun _ => ?_
  cases result <;> exact Grows.tell _

lemma runScript_of_declined (hmissing : context.toolchain.hasBinary s.files = false)
    (hdeclined : Declined s ((runScript context address).run s).2) :
    OnlyTalks context s.editor (runScript context address) () (scriptTalk address) := by
  intro other heditor hother
  refine withCompiler_of_declined hother fun hscript => ?_
  rw [heditor]
  exact hdeclined.choice
    (prefix_withCompiler hmissing hscript fun _ _ => Grows.sendToTerminal _ _ _)

lemma inspectScript_of_declined {further : String}
    (hmissing : context.toolchain.hasBinary s.files = false)
    (hdeclined : Declined s ((inspectScript context address further).run s).2) :
    OnlyTalks context s.editor (inspectScript context address further) () (scriptTalk address) := by
  intro other heditor hother
  refine withCompiler_of_declined hother fun hscript => ?_
  rw [heditor]
  exact hdeclined.choice (prefix_withCompiler hmissing hscript (grows_showAssembly further))

lemma startRepl_of_declined (hmissing : context.toolchain.hasBinary s.files = false)
    (hdeclined : Declined s ((startRepl context).run s).2) :
    OnlyTalks context s.editor (startRepl context) () [missingQuestion] := by
  have hgrows : (context.toolchain.ensureBinary.run s).2.editor.events <+:
      ((startRepl context).run s).2.editor.events := by
    unfold startRepl
    rw [run_bind]
    rcases context.toolchain.ensureBinary.run s with ⟨_ | binary, after⟩
    · exact List.prefix_rfl
    · exact Grows.sendToTerminal _ _ _ after
  have hchoice := hdeclined.choice ((prefix_ensureBinary hmissing).trans hgrows)
  intro other heditor hother
  rw [← heditor] at hchoice
  unfold startRepl
  rw [run_bind, ensureBinary_of_declined hother hchoice]
  rfl

/-- What is said by the assembly with further arguments when the compiler is missing. -/
def furtherTalk (context : Context) (arguments : List Json) (editor : Editor) : List Event :=
  match textArgument? arguments 1, editor.takeReply.1.entry with
  | some _, _ => scriptTalk (textArgument? arguments 0)
  | none, some _ => argumentsQuestion context :: scriptTalk (textArgument? arguments 0)
  | none, none => [argumentsQuestion context]

lemma inspectWithArguments_of_declined {arguments : List Json}
    (hmissing : context.toolchain.hasBinary s.files = false)
    (hdeclined : Declined s ((execute context arguments .inspectWithArguments).run s).2) :
    OnlyTalks context s.editor (execute context arguments .inspectWithArguments) none
      (furtherTalk context arguments s.editor) := by
  have hrun : ∀ s, (execute context arguments .inspectWithArguments).run s =
      (none, ((((asmArguments? context arguments).run s).1.elim (pure ())
        (inspectScript context (textArgument? arguments 0))).run
          ((asmArguments? context arguments).run s).2).2) := by
    intro s
    unfold execute
    rw [run_bind]
    rcases (asmArguments? context arguments).run s with ⟨_ | further, after⟩ <;> rfl
  intro other heditor hother
  rw [hrun, run_asmArguments?] at hdeclined ⊢
  unfold furtherTalk
  generalize textArgument? arguments 1 = given at hdeclined ⊢
  cases given with
  | some given =>
    simp only [Option.elim_some, inspectScript_of_declined hmissing hdeclined other heditor hother]
  | none =>
    rw [heditor]
    generalize s.editor.takeReply.1.entry = entry at hdeclined ⊢
    cases entry with
    | none => rfl
    | some further =>
      have htold : (other.told [argumentsQuestion context]).editor =
          (s.told [argumentsQuestion context]).editor := by
        rw [Surroundings.told, Surroundings.told, heditor]
      have hscript := inspectScript_of_declined (s := s.told [argumentsQuestion context]) hmissing
        hdeclined.of_told _ htold hother
      simp only [Option.elim_some, hscript, Surroundings.told_append]
      rfl

/-- The events of a command that does not get its compiler. -/
def excuses (context : Context) : List Event :=
  [noScript, argumentsQuestion context, missingQuestion]

lemma scriptTalk_subset : scriptTalk address ⊆ excuses context := by
  unfold scriptTalk excuses
  split <;> simp

lemma furtherTalk_subset {arguments : List Json} {editor : Editor} :
    furtherTalk context arguments editor ⊆ excuses context := by
  unfold furtherTalk
  split
  · exact scriptTalk_subset
  · exact List.cons_subset.2 ⟨by simp [excuses], scriptTalk_subset⟩
  · simp [excuses]

/-- The commands that use the compiler. -/
def compilerCommands : List Command :=
  [.run, .inspect, .inspectWithArguments, .openRepl]

lemma execute_of_declined {command : Command} {arguments : List Json}
    (hcommand : command ∈ compilerCommands)
    (hmissing : context.toolchain.hasBinary s.files = false)
    (hdeclined : Declined s ((execute context arguments command).run s).2) :
    ∃ talk ⊆ excuses context,
      OnlyTalks context s.editor (execute context arguments command) none talk := by
  -- all but the third do their work and then answer nothing
  have hdone {work : Activity Unit} {talk : List Event}
      (h : OnlyTalks context s.editor work () talk) :
      OnlyTalks context s.editor (do work; return none : Activity (Option String)) none talk := by
    intro other heditor hother
    rw [run_bind, h other heditor hother]
    rfl
  simp only [compilerCommands, List.mem_cons, List.not_mem_nil, or_false] at hcommand
  obtain rfl | rfl | rfl | rfl := hcommand
  · exact ⟨_, scriptTalk_subset, hdone (runScript_of_declined hmissing hdeclined)⟩
  · exact ⟨_, scriptTalk_subset, hdone (inspectScript_of_declined hmissing hdeclined)⟩
  · exact ⟨_, furtherTalk_subset, inspectWithArguments_of_declined hmissing hdeclined⟩
  · exact ⟨_, by simp [excuses], hdone (startRepl_of_declined hmissing hdeclined)⟩

lemma run_call {name : String} {command : Command} (h : ofName? name = some command)
    (arguments : List Json) (s : Surroundings) :
    (call context name arguments).run s =
      (.ok ((execute context arguments command).run s).1,
        ((execute context arguments command).run s).2) := by
  unfold call
  rw [h]
  rfl

/-- **A declined installation has no effect.**  Where the compiler is missing, and the user does not
answer the question about it by its first button, each of the four commands that need the compiler
yields nothing and leaves the surroundings as they were, but for what was said: that there is no
script, or the questions.  The same is said whatever else the files hold and whatever releases there
are. -/
theorem declined_installation_only_talks (context : Context) (name : String)
    (arguments : List Json) (s : Surroundings)
    (hname : name ∈ ["aelys.run", "aelys.inspectBytecode", "aelys.inspectBytecodeWithArgs",
      "aelys.openRepl"])
    (hmissing : context.toolchain.hasBinary s.files = false)
    (hdeclined : Declined s ((call context name arguments).run s).2) :
    ∃ talk ⊆ [noScript, argumentsQuestion context, missingQuestion],
      ∀ other : Surroundings, other.editor = s.editor →
        context.toolchain.hasBinary other.files = false →
        (call context name arguments).run other = (.ok none, other.told talk) := by
  obtain ⟨command, hcommand, hfound⟩ :
      ∃ command ∈ compilerCommands, ofName? name = some command := by
    simp only [List.mem_cons, List.not_mem_nil, or_false] at hname
    obtain rfl | rfl | rfl | rfl := hname
    · exact ⟨.run, by decide, by decide +kernel⟩
    · exact ⟨.inspect, by decide, by decide +kernel⟩
    · exact ⟨.inspectWithArguments, by decide, by decide +kernel⟩
    · exact ⟨.openRepl, by decide, by decide +kernel⟩
  rw [run_call hfound] at hdeclined
  obtain ⟨talk, hexcuses, htalks⟩ := execute_of_declined hcommand hmissing hdeclined
  refine ⟨talk, hexcuses, fun other heditor hother => ?_⟩
  rw [run_call hfound, htalks other heditor hother]

/-- Nothing is configured. -/
def plain : Context :=
  ⟨atStorage "/store", .default, false⟩

/-- The assembly of a script, after two questions: the user enters as further arguments what would
agree to an installation, and then does not quite agree. -/
theorem declined_installation_only_talks_asked_twice :
    let s : Surroundings :=
      { offering "v2" [] with
          editor := .fresh [.ofText (some installNow), .ofText (some "install now")] false }
    ∃ talk ⊆ [noScript, argumentsQuestion plain, missingQuestion],
      (call plain "aelys.inspectBytecodeWithArgs" [.text "file:///work/main.aelys"]).run s =
        (.ok none, s.told talk) := by
  intro s
  have hevents : ((call plain "aelys.inspectBytecodeWithArgs"
      [.text "file:///work/main.aelys"]).run s).2.editor.events =
        [argumentsQuestion plain, missingQuestion] := by
    decide +kernel
  have hdeclined : Declined s ((call plain "aelys.inspectBytecodeWithArgs"
      [.text "file:///work/main.aelys"]).run s).2 := by
    intro talk reply htalk hreply
    rw [hevents] at htalk
    obtain rfl : [argumentsQuestion plain, missingQuestion] = talk := htalk
    obtain rfl : reply = .ofText (some "install now") := by
      simpa [answers, s, argumentsQuestion, missingQuestion, Event.isQuestion,
        Editor.fresh] using hreply
    decide
  obtain ⟨talk, hexcuses, hrun⟩ := declined_installation_only_talks plain
    "aelys.inspectBytecodeWithArgs" [.text "file:///work/main.aelys"] s (by decide)
    (by decide +kernel) hdeclined
  exact ⟨talk, hexcuses, hrun s rfl (by decide +kernel)⟩

end Command

end LanguageServer
