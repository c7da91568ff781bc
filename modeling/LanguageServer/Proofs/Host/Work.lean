import Mathlib.Data.List.Basic
import Mathlib.Tactic.Common
import LanguageServer.Surroundings

/-!
# Works that are announced and ended

A work that takes time is announced to the editor, reported on and ended.  An editor shows it from
its announcement to its end, so a work without an end would be shown for ever.

`WorksEnd` says of a list of events that every announcement is followed by reports on the same work
and then by its end, and that no other event is about this work.  The events of two lists can be
joined when they are about different works (`WorksEnd.append`).  Numbers of works are handed out in
order, so an editor whose works have all ended may be given a new one: `Editor.Tidy` is the state
between works, and `Editor.Working` the state from an announcement to the end.

What an activity does to the editor is said by `Activity.Ensures`, with one rule for each of the
ways in which the server talks to the editor.
-/

namespace LanguageServer

/-! ## Events about works -/

namespace Event

/-- The work that an event is about. -/
def work? : Event → Option Nat
  | .progressBegin work _ => some work
  | .progressReport work _ => some work
  | .progressEnd work => some work
  | _ => none

/-- The work that an event announces. -/
def announced? : Event → Option Nat
  | .progressBegin work _ => some work
  | _ => none

/-- What is told about a work that has not ended. -/
def begun (work : Nat) (title : String) (reports : List String) : List Event :=
  .progressBegin work title :: reports.map (.progressReport work)

lemma announced?_eq_some_iff {event : Event} {work : Nat} :
    event.announced? = some work ↔ ∃ title, event = .progressBegin work title := by
  cases event <;> simp [announced?]

lemma work?_of_mem_begun {event : Event} {work : Nat} {title : String} {reports : List String}
    (h : event ∈ begun work title reports) : event.work? = some work := by
  rcases List.mem_cons.mp h with rfl | h
  · rfl
  · obtain ⟨report, -, rfl⟩ := List.mem_map.mp h
    rfl

end Event

/-- Every work of the events is announced once and then ended: reports on it are all that stands
between the announcement and the end, and no other event is about it. -/
structure WorksEnd (events : List Event) : Prop where
  ended : ∀ (before : List Event) (work : Nat) (title : String) (after : List Event),
    events = before ++ .progressBegin work title :: after →
      ∃ (reports : List String) (rest : List Event),
        after = reports.map (.progressReport work) ++ .progressEnd work :: rest ∧
          ∀ event ∈ before ++ rest, event.work? ≠ some work
  announced : ∀ event ∈ events, ∀ work, event.work? = some work →
    ∃ title, Event.progressBegin work title ∈ events

/-- An element of two joined lists stands in the second one or in the first one. -/
lemma split_append_cons {α : Type} {front back before after : List α} {a : α}
    (h : front ++ back = before ++ a :: after) :
    (∃ lead, before = front ++ lead ∧ back = lead ++ a :: after) ∨
      ∃ rest, front = before ++ a :: rest ∧ after = rest ++ back := by
  rcases List.append_eq_append_iff.mp h with ⟨lead, hbefore, hback⟩ | ⟨rest, hfront, hback⟩
  · exact Or.inl ⟨lead, hbefore, hback⟩
  · cases rest with
    | nil =>
      rw [List.append_nil] at hfront
      exact Or.inl ⟨[], by rw [hfront, List.append_nil], hback.symm⟩
    | cons b rest =>
      cases hback
      exact Or.inr ⟨rest, hfront, rfl⟩

namespace WorksEnd

variable {events more : List Event} {event : Event}

lemma nil : WorksEnd [] where
  ended before work title after h := by simp at h
  announced event h := by cases h

/-- An event about no work. -/
lemma singleton (h : event.work? = none) : WorksEnd [event] where
  ended before work title after heq := by
    have hmem : Event.progressBegin work title ∈ [event] := by simp [heq]
    rw [← List.mem_singleton.mp hmem] at h
    cases h
  announced other hother work hwork := by
    rw [List.mem_singleton.mp hother, h] at hwork
    cases hwork

/-- All events of one work. -/
lemma whole (work : Nat) (title : String) (reports : List String) :
    WorksEnd (Event.begun work title reports ++ [.progressEnd work]) where
  ended before other heading after heq := by
    cases before with
    | nil =>
      cases heq
      exact ⟨reports, [], rfl, by simp⟩
    | cons first before =>
      -- What follows the first event are reports and the end.
      have hmem : Event.progressBegin other heading ∈
          reports.map (.progressReport work) ++ [.progressEnd work] := by
        have htail := congrArg List.tail heq
        rw [Event.begun, List.cons_append, List.tail_cons, List.cons_append,
          List.tail_cons] at htail
        simp [htail]
      simp at hmem
  announced event hevent other hother := by
    refine ⟨title, ?_⟩
    have hwork : event.work? = some work := by
      rcases List.mem_append.mp hevent with h | h
      · exact Event.work?_of_mem_begun h
      · rw [List.mem_singleton.mp h]
        rfl
    rw [hwork] at hother
    cases hother
    exact List.mem_cons_self

/-- **Events about different works can be joined.** -/
lemma append (h : WorksEnd events) (hmore : WorksEnd more)
    (hother : ∀ event ∈ events, ∀ event' ∈ more, ∀ work,
      event.work? = some work → event'.work? ≠ some work) :
    WorksEnd (events ++ more) where
  ended before work title after heq := by
    rcases split_append_cons heq with ⟨lead, rfl, hlead⟩ | ⟨middle, hmiddle, rfl⟩
    · -- The announcement is among the later events.
      obtain ⟨reports, rest, hafter, hwork⟩ := hmore.ended lead work title after hlead
      refine ⟨reports, rest, hafter, fun event hevent hsame => ?_⟩
      rw [List.append_assoc, List.mem_append] at hevent
      rcases hevent with hevent | hevent
      · have hlater : Event.progressBegin work title ∈ more := by simp [hlead]
        exact hother event hevent _ hlater work hsame rfl
      · exact hwork event hevent hsame
    · -- The announcement is among the earlier events.
      obtain ⟨reports, rest, hafter, hwork⟩ := h.ended before work title middle hmiddle
      refine ⟨reports, rest ++ more, by simp [hafter], fun event hevent hsame => ?_⟩
      rw [← List.append_assoc, List.mem_append] at hevent
      rcases hevent with hevent | hevent
      · exact hwork event hevent hsame
      · have hearlier : Event.progressBegin work title ∈ events := by simp [hmiddle]
        exact hother _ hearlier event hevent work rfl hsame
  announced event hevent work hwork := by
    rcases List.mem_append.mp hevent with hevent | hevent
    · obtain ⟨title, htitle⟩ := h.announced event hevent work hwork
      exact ⟨title, List.mem_append_left _ htitle⟩
    · obtain ⟨title, htitle⟩ := hmore.announced event hevent work hwork
      exact ⟨title, List.mem_append_right _ htitle⟩

/-- No two announcements are of the same work. -/
lemma nodup_announced (h : WorksEnd events) : (events.filterMap Event.announced?).Nodup := by
  have hsuffix : ∀ before after, events = before ++ after →
      (after.filterMap Event.announced?).Nodup := by
    intro before after heq
    induction after generalizing before with
    | nil => exact List.nodup_nil
    | cons event after ih =>
      have hafter := ih (before ++ [event]) (by rw [heq, List.append_cons])
      cases hevent : event.announced? with
      | none => rwa [List.filterMap_cons_none hevent]
      | some work =>
        rw [List.filterMap_cons_some hevent, List.nodup_cons]
        refine ⟨fun hmem => ?_, hafter⟩
        obtain ⟨title, rfl⟩ := Event.announced?_eq_some_iff.mp hevent
        obtain ⟨again, hagain, hwork⟩ := List.mem_filterMap.mp hmem
        obtain ⟨heading, rfl⟩ := Event.announced?_eq_some_iff.mp hwork
        obtain ⟨reports, rest, hrest, hnone⟩ := h.ended before work title after heq
        -- Between an announcement and the end are reports, and after it nothing on the work.
        have hlater : Event.progressBegin work heading ∈ rest := by simpa [hrest] using hagain
        exact hnone _ (List.mem_append_right _ hlater) rfl
  exact hsuffix [] events rfl

end WorksEnd

/-! ## Editors -/

namespace Editor

/-- Every work that was announced has ended, and the next work gets a number that no event is
about. -/
structure Tidy (editor : Editor) : Prop where
  worksEnd : WorksEnd editor.events
  work_lt : ∀ event ∈ editor.events, ∀ work, event.work? = some work → work < editor.works

/-- The work was announced last and has not ended, and all works before it have. -/
def Working (work : Nat) (editor : Editor) : Prop :=
  ∃ (before : Editor) (title : String) (reports : List String), before.Tidy ∧
    before.works = work ∧ editor.works = work + 1 ∧
    editor.events = before.events ++ Event.begun work title reports

variable {editor after : Editor} {work : Nat}

lemma tidy_fresh (replies : List Reply) (confirmsWork : Bool) :
    (fresh replies confirmsWork).Tidy :=
  ⟨WorksEnd.nil, fun _ h => by cases h⟩

/-- Events about no work keep an editor tidy. -/
lemma Tidy.add (h : editor.Tidy) (event : Event) (hevent : event.work? = none)
    (hevents : after.events = editor.events ++ [event]) (hworks : after.works = editor.works) :
    after.Tidy where
  worksEnd := by
    rw [hevents]
    refine h.worksEnd.append (.singleton hevent) fun _ _ other hother work _ => ?_
    rw [List.mem_singleton.mp hother, hevent]
    exact (Option.some_ne_none work).symm
  work_lt other hother work hwork := by
    rw [hevents, List.mem_append, List.mem_singleton] at hother
    rw [hworks]
    rcases hother with hother | rfl
    · exact h.work_lt other hother work hwork
    · rw [hevent] at hwork
      cases hwork

lemma takeReply_events (editor : Editor) :
    editor.takeReply.2.events = editor.events ∧ editor.takeReply.2.works = editor.works := by
  unfold takeReply
  split <;> exact ⟨rfl, rfl⟩

/-- A question is added to the events. -/
lemma ask_events (editor : Editor) (question : Event) :
    (editor.ask question).2.events = editor.events ++ [question] ∧
      (editor.ask question).2.works = editor.works :=
  takeReply_events (editor.tell question)

lemma Tidy.ask {question : Event} (h : editor.Tidy) (hquestion : question.work? = none) :
    (editor.ask question).2.Tidy := by
  obtain ⟨hevents, hworks⟩ := ask_events editor question
  exact h.add question hquestion hevents hworks

lemma beginWork_events (editor : Editor) (title : String) :
    (editor.beginWork title).2.events =
        editor.events ++ [.progressBegin editor.works title] ∧
      (editor.beginWork title).2.works = editor.works + 1 := by
  unfold Editor.beginWork
  dsimp only
  split
  · obtain ⟨hevents, hworks⟩ := takeReply_events { editor with works := editor.works + 1 }
    exact ⟨by rw [tell, hevents], hworks⟩
  · exact ⟨rfl, rfl⟩

/-- Announcing a work. -/
lemma Tidy.beginWork (h : editor.Tidy) (title : String) :
    Working (editor.beginWork title).1 (editor.beginWork title).2 := by
  obtain ⟨hevents, hworks⟩ := beginWork_events editor title
  exact ⟨editor, title, [], h, rfl, hworks, hevents⟩

/-- Reporting on the work that was announced. -/
lemma Working.report (h : Working work editor) (message : String) :
    Working work (editor.tell (.progressReport work message)) := by
  obtain ⟨before, title, reports, htidy, hwork, hworks, hevents⟩ := h
  refine ⟨before, title, reports ++ [message], htidy, hwork, hworks, ?_⟩
  rw [tell, hevents, Event.begun, Event.begun, List.map_append]
  simp

/-- **Ending the work that was announced** leaves a tidy editor. -/
lemma Working.finish (h : Working work editor) : (editor.tell (.progressEnd work)).Tidy := by
  obtain ⟨before, title, reports, htidy, hwork, hworks, hevents⟩ := h
  have hall : (editor.tell (.progressEnd work)).events =
      before.events ++ (Event.begun work title reports ++ [.progressEnd work]) := by
    rw [tell, hevents, List.append_assoc]
  have hnew : ∀ event ∈ Event.begun work title reports ++ [.progressEnd work],
      event.work? = some work := by
    intro event hevent
    rcases List.mem_append.mp hevent with hevent | hevent
    · exact Event.work?_of_mem_begun hevent
    · rw [List.mem_singleton.mp hevent]
      rfl
  constructor
  · rw [hall]
    refine htidy.worksEnd.append (.whole work title reports)
      fun event hevent other hother n hn hn' => ?_
    have hlt := htidy.work_lt event hevent n hn
    rw [hnew other hother, Option.some.injEq] at hn'
    omega
  · intro event hevent n hn
    have hnext : (editor.tell (.progressEnd work)).works = work + 1 := hworks
    rw [hall, List.mem_append] at hevent
    rw [hnext]
    rcases hevent with hevent | hevent
    · have hlt := htidy.work_lt event hevent n hn
      omega
    · rw [hnew event hevent, Option.some.injEq] at hn
      omega

end Editor

/-! ## Activities -/

namespace Activity

variable {α β : Type} {P : Editor → Prop} {Q : α → Editor → Prop} {R : β → Editor → Prop}

/-- From every editor with `P` the activity leads to an editor with `Q`, for the value that it
returns. -/
def Ensures (P : Editor → Prop) (activity : Activity α) (Q : α → Editor → Prop) : Prop :=
  ∀ s : Surroundings, P s.editor → Q (activity.run s).1 (activity.run s).2.editor

namespace Ensures

lemma pure {a : α} (h : ∀ editor, P editor → Q a editor) :
    Ensures P (Pure.pure a : Activity α) Q :=
  fun s hs => h s.editor hs

lemma bind {activity : Activity α} {next : α → Activity β} (h : Ensures P activity Q)
    (hnext : ∀ a, Ensures (Q a) (next a) R) : Ensures P (activity >>= next) R :=
  fun s hs => hnext _ _ (h s hs)

/-- An activity that leaves the editor alone. -/
lemma of_editor_eq {activity : Activity α}
    (h : ∀ s : Surroundings, (activity.run s).2.editor = s.editor) :
    Ensures P activity fun _ => P := by
  intro s hs
  rw [h s]
  exact hs

lemma get : Ensures P (MonadState.get : Activity Surroundings) fun _ => P :=
  fun _ hs => hs

lemma beginWork (title : String) :
    Ensures Editor.Tidy (beginWork title) Editor.Working :=
  fun _ hs => hs.beginWork title

lemma report (work : Nat) (message : String) :
    Ensures (Editor.Working work) (tell (.progressReport work message))
      fun _ => Editor.Working work :=
  fun _ hs => hs.report message

lemma finish (work : Nat) :
    Ensures (Editor.Working work) (tell (.progressEnd work)) fun _ => Editor.Tidy :=
  fun _ hs => hs.finish

end Ensures

/-- The activity leaves a tidy editor tidy. -/
def Tidy (activity : Activity α) : Prop :=
  Ensures Editor.Tidy activity fun _ => Editor.Tidy

namespace Tidy

lemma pure (a : α) : Tidy (Pure.pure a : Activity α) :=
  Ensures.pure fun _ h => h

lemma bind {activity : Activity α} {next : α → Activity β} (h : Tidy activity)
    (hnext : ∀ a, Tidy (next a)) : Tidy (activity >>= next) :=
  Ensures.bind h hnext

lemma get : Tidy (MonadState.get : Activity Surroundings) :=
  Ensures.get

lemma tell {event : Event} (hevent : event.work? = none) : Tidy (tell event) :=
  fun _ hs => hs.add event hevent rfl rfl

lemma ask {question : Event} (hquestion : question.work? = none) : Tidy (ask question) :=
  fun _ hs => hs.ask hquestion

lemma setStatus (text : String) : Tidy (withEditor (·.setStatus text)) :=
  fun _ hs => hs.add (.status text) rfl rfl rfl

lemma sendToTerminal (name text : String) (focus : Bool) :
    Tidy (withEditor (·.sendToTerminal name text focus)) :=
  fun _ hs => hs.add (.terminalSend name text focus) rfl rfl rfl

end Tidy

end Activity

end LanguageServer
