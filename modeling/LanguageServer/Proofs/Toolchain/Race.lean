import Mathlib.Data.List.Basic
import Mathlib.Logic.Function.Basic
import Mathlib.Tactic.Common
import LanguageServer.Proofs.Toolchain.State
import LanguageServer.Toolchain.Update

/-!
# Changes of the stored state at the same time

The stored state is changed in two steps: it is loaded, and what the change makes of it is saved.  A
check for a newer release waits in the background for the user while commands go on installing
releases, so that the steps of one change may fall between those of another.

Where all states can be saved, they can be saved again and again (`InstallState.Savable.save`).
What is stored in the end is then decided by the order of the steps alone.  As long as every writer
that saves has loaded the state after the last save, or does not look at what it has loaded, the
changes end as they do one after the other, in the order of their saves
(`InstallState.Race.load_run_of_current`).

The server makes two changes.  An installation records its release whatever was stored before.  A
check that puts off a release keeps the installed release as it was when the state was loaded.
`Toolchain.interleaving_serial_iff` says what follows: the steps of the two may fall in any order,
except that an installation which saves between the two steps of a check is forgotten.
-/

namespace LanguageServer

open Text FileTree

namespace InstallState

variable {state : InstallState} {files made after : FileTree} {storage : Path}

/-! ## Saving again -/

lemma makeStorage_again {touched : List Place} (h : makeStorage files storage = (made, none))
    (hevolves : Evolves touched made after) : makeStorage after storage = (after, none) := by
  unfold makeStorage at h ⊢
  split at h
  · rfl
  next directory _ =>
    simp only [Prod.mk.injEq, Option.map_eq_none_iff] at h
    have hmade : files.makeDirectories directory = (made, none) := Prod.ext h.1 h.2
    simp only [makeDirectories_again hmade hevolves, Option.map_none]

/-- What saving a state asks of the files once the storage directory is made. -/
structure Ready (made : FileTree) (storage : Path) (state : InstallState) : Prop where
  draftPath : check (draft storage) = .ok ()
  filePath : check (file storage) = .ok ()
  opens : made.Opens storage
  draftFree : made.nodeIn storage draftName ≠ some .directory
  fileFree : made.nodeIn storage fileName ≠ some .directory
  opened : made.medium.failure? (.openFile (made.placeOf storage ++ [draftName])) = none
  filled : made.medium.failure?
    (.fill (made.placeOf storage ++ [draftName]) (.text state.text)) = none
  moved : made.medium.failure?
    (.rename (made.placeOf storage ++ [draftName]) (made.placeOf storage ++ [fileName])) = none

lemma ready_of_save (h : state.save files storage = (after, none)) :
    ∃ made, makeStorage files storage = (made, none) ∧ Ready made storage state ∧
      EvolvesIn storage [draftName, fileName] made after := by
  obtain ⟨made, written, hmade, hwritten, hrename⟩ := save_steps h
  have hdraft : EvolvesIn storage [draftName] made written :=
    evolves_write_child plain_draftName hwritten
  obtain ⟨hmoved, -, -⟩ := rename_child plain_draftName plain_fileName (by decide) hrename
  obtain ⟨place, node, -, hlocate, hnode, -, hopened, hfilled⟩ := write_ok hwritten
  obtain ⟨hdraftPath, hopens, rfl, rfl⟩ := (locate_child plain_draftName place node).1 hlocate
  obtain ⟨old, new, node, _, hold, htarget, htargetNode, -, hmedium⟩ := rename_ok hrename
  obtain ⟨-, -, rfl, -⟩ := (locate_child plain_draftName old _).1 hold
  obtain ⟨hfilePath, -, rfl, rfl⟩ := (locate_child plain_fileName new node).1 htarget
  have hplaceOf := Evolves.placeOf_eq hdraft storage
  rw [hplaceOf, hdraft.medium] at hmedium
  rw [hplaceOf] at htargetNode
  refine ⟨made, hmade, ⟨hdraftPath, hfilePath, hopens, hnode, ?_, hopened, hfilled, hmedium⟩,
    (hdraft.mono (by simp)).trans hmoved⟩
  exact fun hdirectory => htargetNode (hdraft.directories _ hdirectory)

lemma save_of_ready (hmade : makeStorage files storage = (made, none))
    (hready : Ready made storage state) : (state.save files storage).2 = none := by
  obtain ⟨written, hwritten⟩ := exists_write_child plain_draftName hready.draftPath hready.opens
    hready.draftFree hready.opened hready.filled
  have hwrite : made.write (draft storage) (.text state.text) = (written, none) := hwritten
  have hevolves : EvolvesIn storage [draftName] made written :=
    evolves_write_child plain_draftName hwrite
  have hplaceOf := Evolves.placeOf_eq hevolves storage
  obtain ⟨executable, hdraft⟩ := nodeIn_of_write plain_draftName hwritten
  have hfile : written.nodeIn storage fileName ≠ some .directory := by
    obtain ⟨place, node, _, hlocate, -, rfl, -, -⟩ := write_ok hwritten
    obtain ⟨-, -, rfl, -⟩ := (locate_child plain_draftName place node).1 hlocate
    have hplaces : made.placeOf storage ++ [fileName] ≠ made.placeOf storage ++ [draftName] := by
      simp [fileName, draftName, encode]
    rw [nodeIn, hplaceOf, node?_set_of_ne hplaces]
    exact hready.fileFree
  have hmedium := hready.moved
  rw [← hplaceOf, ← hevolves.medium] at hmedium
  obtain ⟨replaced, hrename⟩ := exists_rename_child plain_draftName plain_fileName
    hready.draftPath hready.filePath (hready.opens.evolve hevolves) hdraft hfile hmedium
  have hmove : written.rename (draft storage) (file storage) = .ok replaced := hrename
  simp only [save, hmade, hwrite, hmove]

/-- States can be saved. -/
def Savable (files : FileTree) (storage : Path) : Prop :=
  ∀ state : InstallState, (state.save files storage).2 = none

lemma medium_of_makeStorage {cause : Option SaveError}
    (h : makeStorage files storage = (made, cause)) : made.medium = files.medium :=
  (evolvesIn_makeStorage [] h).medium

/-- On a medium that does not fail, every state can be saved where one can. -/
lemma savable_of_save (hsound : files.medium = .sound) (h : (state.save files storage).2 = none) :
    Savable files storage := by
  have hsave : state.save files storage = ((state.save files storage).1, none) := Prod.ext rfl h
  obtain ⟨made, hmade, hready, -⟩ := ready_of_save hsave
  intro other
  refine save_of_ready hmade { hready with filled := ?_ }
  rw [medium_of_makeStorage hmade, hsound]
  rfl

/-- **Where states can be saved they can be saved again.** -/
lemma Savable.save (h : Savable files storage) (state : InstallState) :
    Savable (state.save files storage).1 storage := by
  intro other
  have hsave : state.save files storage = ((state.save files storage).1, none) :=
    Prod.ext rfl (h state)
  have hother : other.save files storage = ((other.save files storage).1, none) :=
    Prod.ext rfl (h other)
  obtain ⟨made, hmade, -, hevolves⟩ := ready_of_save hsave
  obtain ⟨same, hsame, hready, -⟩ := ready_of_save hother
  obtain ⟨rfl, -⟩ := Prod.mk.inj (hmade.symm.trans hsame)
  obtain ⟨-, executable, hfile⟩ := save_ok hsave
  obtain ⟨-, -, hnode⟩ := (file?_child plain_fileName _).1 hfile
  have hplaceOf := Evolves.placeOf_eq hevolves storage
  refine save_of_ready (makeStorage_again hmade hevolves)
    ⟨hready.draftPath, hready.filePath, hready.opens.evolve hevolves, ?_, ?_, ?_, ?_, ?_⟩
  · rw [nodeIn_draft_of_save hsave]
    simp
  · rw [hnode]
    simp
  · rw [hevolves.medium, hplaceOf]
    exact hready.opened
  · rw [hevolves.medium, hplaceOf]
    exact hready.filled
  · rw [hevolves.medium, hplaceOf]
    exact hready.moved

lemma Savable.load_save (h : Savable files storage) (state : InstallState) :
    load (state.save files storage).1 storage = state :=
  load_of_save (Prod.ext rfl (h state))

/-! ## The steps of several changes -/

/-- A step of one of several changes: its writer loads the stored state, or saves what the change
makes of the state that the writer has loaded. -/
inductive Step (ι : Type) where
  | load (writer : ι)
  | save (writer : ι)
deriving DecidableEq, Repr

/-- The writer that saves. -/
def Step.saver? {ι : Type} : Step ι → Option ι
  | .load _ => none
  | .save writer => some writer

/-- The steps of a change. -/
def steps {ι : Type} (writer : ι) : List (Step ι) :=
  [.load writer, .save writer]

/-- The files while changes go on, and what each writer has loaded. -/
structure Race (ι : Type) where
  files : FileTree
  loaded : ι → InstallState

namespace Race

variable {ι : Type} [DecidableEq ι]

/-- The race before its first step. -/
def start (files : FileTree) : Race ι := ⟨files, fun _ => .empty⟩

/-- The race after a step. -/
def step (change : ι → InstallState → InstallState) (storage : Path) (race : Race ι) :
    Step ι → Race ι
  | .load writer =>
    { race with loaded := Function.update race.loaded writer (load race.files storage) }
  | .save writer =>
    { race with files := ((change writer (race.loaded writer)).save race.files storage).1 }

/-- The race after one step after the other. -/
def run (change : ι → InstallState → InstallState) (storage : Path) (race : Race ι)
    (schedule : List (Step ι)) : Race ι :=
  schedule.foldl (step change storage) race

variable {change : ι → InstallState → InstallState} {race : Race ι}

lemma run_cons (first : Step ι) (rest : List (Step ι)) :
    race.run change storage (first :: rest) =
      (race.step change storage first).run change storage rest :=
  rfl

lemma savable_run (hsavable : Savable race.files storage) (schedule : List (Step ι)) :
    Savable (race.run change storage schedule).files storage := by
  induction schedule generalizing race with
  | nil => exact hsavable
  | cons first rest ih =>
    cases first with
    | load writer => exact ih hsavable
    | save writer => exact ih (hsavable.save _)

/-- What is stored in the end is what the last writer made of the state that it had loaded. -/
lemma load_run_append_save (hsavable : Savable race.files storage) (before : List (Step ι))
    (writer : ι) :
    load (race.run change storage (before ++ [.save writer])).files storage =
      change writer ((race.run change storage before).loaded writer) := by
  rw [run, List.foldl_append]
  exact (savable_run hsavable before).load_save _

/-- Is nothing made of a state that is out of date?  Every writer that saves has loaded the state
after the last save, or is blind: what it saves does not depend on what it has loaded.  The list
holds the writers that have loaded since the last save. -/
def current (blind : ι → Bool) : List ι → List (Step ι) → Bool
  | _, [] => true
  | fresh, .load writer :: rest => current blind (writer :: fresh) rest
  | fresh, .save writer :: rest => (fresh.contains writer || blind writer) && current blind [] rest

/-- **A race in which nothing out of date is saved** ends as the changes do one after the other, in
the order of their saves. -/
lemma load_run_of_current {blind : ι → Bool}
    (hblind : ∀ writer, blind writer = true → ∀ state other,
      change writer state = change writer other)
    (hsavable : Savable race.files storage) {fresh : List ι}
    (hfresh : ∀ writer ∈ fresh, race.loaded writer = load race.files storage)
    {schedule : List (Step ι)} (h : current blind fresh schedule = true) :
    load (race.run change storage schedule).files storage =
      (schedule.filterMap Step.saver?).foldl (fun state writer => change writer state)
        (load race.files storage) := by
  -- On the steps; what the writers in the list have loaded is what is stored.
  induction schedule generalizing race fresh with
  | nil => rfl
  | cons first rest ih =>
    cases first with
    | load writer =>
      have hloaded : ∀ other ∈ writer :: fresh,
          (race.step change storage (.load writer)).loaded other = load race.files storage := by
        intro other hother
        by_cases hsame : other = writer
        · simp only [step, hsame, Function.update_self]
        · rcases List.mem_cons.1 hother with hwriter | hmem
          · exact absurd hwriter hsame
          · simp only [step, Function.update_of_ne hsame, hfresh other hmem]
      exact ih hsavable hloaded h
    | save writer =>
      simp only [current, Bool.and_eq_true, Bool.or_eq_true, List.contains_iff_mem] at h
      have hstored : change writer (race.loaded writer) =
          change writer (load race.files storage) := by
        rcases h.1 with hmem | hwriter
        · rw [hfresh writer hmem]
        · exact hblind writer hwriter _ _
      -- A save makes everything out of date that was loaded before it.
      have hnone : ∀ other ∈ ([] : List ι),
          (race.step change storage (.save writer)).loaded other =
            load (race.step change storage (.save writer)).files storage := by
        simp
      have hsaved := ih (hsavable.save _) hnone h.2
      simpa only [run_cons, step, hsavable.load_save, hstored, List.filterMap_cons, Step.saver?,
        List.foldl_cons] using hsaved

end Race

/-! ## Whole changes -/

lemma files_update (change : InstallState → InstallState) (files : FileTree) (storage : Path) :
    (update change files storage).1 = ((change (load files storage)).save files storage).1 := by
  simp only [update]
  split
  next saved hsave => rw [hsave]
  next saved e hsave => rw [hsave]

/-- The files after one whole change after the other. -/
def inTurn (storage : Path) (files : FileTree) (changes : List (InstallState → InstallState)) :
    FileTree :=
  changes.foldl (fun files change => (update change files storage).1) files

lemma load_inTurn (hsavable : Savable files storage)
    (changes : List (InstallState → InstallState)) :
    load (inTurn storage files changes) storage =
      changes.foldl (fun state change => change state) (load files storage) := by
  induction changes generalizing files with
  | nil => rfl
  | cons change rest ih =>
    have hrest := ih (hsavable.save (change (load files storage)))
    rw [hsavable.load_save] at hrest
    rw [inTurn, List.foldl_cons, files_update, List.foldl_cons]
    exact hrest

/-- A change whose steps follow each other is an update. -/
lemma files_run_steps {ι : Type} [DecidableEq ι] (change : ι → InstallState → InstallState)
    (race : Race ι) (writer : ι) :
    (race.run change storage (steps writer)).files =
      (update (change writer) race.files storage).1 := by
  rw [files_update]
  simp only [Race.run, steps, List.foldl_cons, List.foldl_nil, Race.step, Function.update_self]

/-! ## Interleavings -/

/-- The third list consists of the elements of the first two, each in their order. -/
inductive Interleaves {α : Type} : List α → List α → List α → Prop where
  | nil : Interleaves [] [] []
  | left {a : α} {xs ys zs : List α} (h : Interleaves xs ys zs) : Interleaves (a :: xs) ys (a :: zs)
  | right {a : α} {xs ys zs : List α} (h : Interleaves xs ys zs) :
    Interleaves xs (a :: ys) (a :: zs)

namespace Interleaves

variable {α : Type} {xs ys zs : List α}

lemma eq_of_nil_left (h : Interleaves [] ys zs) : zs = ys := by
  induction ys generalizing zs with
  | nil =>
    cases h
    rfl
  | cons y ys ih =>
    cases h with
    | right h => rw [ih h]

lemma eq_of_nil_right (h : Interleaves xs [] zs) : zs = xs := by
  induction xs generalizing zs with
  | nil =>
    cases h
    rfl
  | cons x xs ih =>
    cases h with
    | left h => rw [ih h]

lemma of_singleton_left {a b c : α} (h : Interleaves [a] [b, c] zs) :
    zs = [a, b, c] ∨ zs = [b, a, c] ∨ zs = [b, c, a] := by
  cases h with
  | left h => simp [h.eq_of_nil_left]
  | right h =>
    cases h with
    | left h => simp [h.eq_of_nil_left]
    | right h => simp [h.eq_of_nil_right]

lemma of_singleton_right {a b c : α} (h : Interleaves [a, b] [c] zs) :
    zs = [a, b, c] ∨ zs = [a, c, b] ∨ zs = [c, a, b] := by
  cases h with
  | right h => simp [h.eq_of_nil_right]
  | left h =>
    cases h with
    | right h => simp [h.eq_of_nil_right]
    | left h => simp [h.eq_of_nil_left]

lemma of_pairs {a b c d : α} (h : Interleaves [a, b] [c, d] zs) :
    zs ∈ [[a, b, c, d], [a, c, b, d], [a, c, d, b], [c, a, b, d], [c, a, d, b], [c, d, a, b]] := by
  cases h with
  | left h => rcases h.of_singleton_left with rfl | rfl | rfl <;> simp
  | right h => rcases h.of_singleton_right with rfl | rfl | rfl <;> simp

end Interleaves

end InstallState

namespace Toolchain

open InstallState

/-! ## An installation and a check -/

/-- Who changes the stored state: an installation, and a check that puts off another release. -/
inductive Writer where
  | installation
  | check
deriving DecidableEq, Repr

/-- What a writer makes of the stored state. -/
def Writer.change (tag other : String) : Writer → InstallState → InstallState
  | .installation => recordInstalled tag
  | .check => recordIgnored other

/-- The two orders in which whole changes can follow each other. -/
def Writer.orders : List (List Writer) :=
  [[.installation, .check], [.check, .installation]]

/-- The installation saves after the check has loaded the state and before the check saves. -/
def Overtakes (schedule : List (Step Writer)) : Prop :=
  List.Sublist [.load .check, .save .installation, .save .check] schedule

instance (schedule : List (Step Writer)) : Decidable (Overtakes schedule) :=
  inferInstanceAs (Decidable (List.Sublist _ _))

/-- The state that is stored after the steps. -/
def raced (tag other : String) (files : FileTree) (storage : Path)
    (schedule : List (Step Writer)) : InstallState :=
  load ((Race.start files).run (Writer.change tag other) storage schedule).files storage

/-- The state that is stored after whole changes in the given order. -/
def ordered (tag other : String) (files : FileTree) (storage : Path) (order : List Writer) :
    InstallState :=
  load (inTurn storage files (order.map (Writer.change tag other))) storage

variable {tag other : String} {files : FileTree} {storage : Path} {schedule : List (Step Writer)}
  {order : List Writer}

/-- Where the installation does not save between the steps of the check, nothing out of date is
saved but by the installation. -/
lemma overtakes_or_current
    (h : Interleaves (steps Writer.installation) (steps Writer.check) schedule) :
    (Overtakes schedule ∧
        ∃ before ∈ [[Step.load .check, .load .installation], [.load .installation, .load .check]],
          schedule = before ++ [.save .installation] ++ [.save .check]) ∨
      (¬ Overtakes schedule ∧ Race.current (· == .installation) [] schedule = true ∧
        schedule.filterMap Step.saver? ∈ Writer.orders) := by
  have hschedule := h.of_pairs
  simp only [List.mem_cons, List.not_mem_nil, or_false] at hschedule
  rcases hschedule with rfl | rfl | rfl | rfl | rfl | rfl <;> decide

/-- **An installation that saves between the steps of the check is forgotten**: the check saves the
installed release that it had loaded. -/
lemma raced_of_overtakes (hsavable : Savable files storage)
    (h : Interleaves (steps Writer.installation) (steps Writer.check) schedule)
    (hovertakes : Overtakes schedule) :
    raced tag other files storage schedule = ⟨(load files storage).installed, some other⟩ := by
  rcases overtakes_or_current h with ⟨-, before, hbefore, rfl⟩ | ⟨hnot, -⟩
  · rw [raced, Race.load_run_append_save hsavable]
    simp only [List.mem_cons, List.not_mem_nil, or_false] at hbefore
    rcases hbefore with rfl | rfl <;> rfl
  · exact absurd hovertakes hnot

/-- **Every other order of the steps** ends as whole changes do. -/
lemma raced_of_not_overtakes (hsavable : Savable files storage)
    (h : Interleaves (steps Writer.installation) (steps Writer.check) schedule)
    (hovertakes : ¬ Overtakes schedule) :
    ∃ order ∈ Writer.orders,
      raced tag other files storage schedule = ordered tag other files storage order := by
  rcases overtakes_or_current h with ⟨hyes, -⟩ | ⟨-, hcurrent, hsavers⟩
  · exact absurd hyes hovertakes
  · refine ⟨_, hsavers, ?_⟩
    rw [ordered, load_inTurn hsavable, List.foldl_map]
    refine Race.load_run_of_current ?_ hsavable (by simp) hcurrent
    intro writer hwriter state other
    rw [beq_iff_eq.1 hwriter]
    rfl

lemma ordered_eq (hsavable : Savable files storage) :
    ordered tag other files storage [.installation, .check] = ⟨some tag, some other⟩ ∧
      ordered tag other files storage [.check, .installation] = ⟨some tag, none⟩ := by
  constructor <;> rw [ordered, load_inTurn hsavable] <;> rfl

lemma installed_ordered (hsavable : Savable files storage) (horder : order ∈ Writer.orders) :
    (ordered tag other files storage order).installed = some tag := by
  obtain ⟨hfirst, hlast⟩ := @ordered_eq tag other files storage hsavable
  simp only [Writer.orders, List.mem_cons, List.not_mem_nil, or_false] at horder
  rcases horder with rfl | rfl
  · rw [hfirst]
  · rw [hlast]

/-- **Which interleavings of an installation and a check are those of whole changes.**  The steps of
each of the two, by themselves, are an update of the stored state.  Where states can be saved, an
interleaving of the four steps stores what one of the two orders of whole updates stores if and only
if the installation does not save between the steps of the check, or its release was recorded
before; and if and only if this is so the release is recorded in the end.  Otherwise the check
brings back the installed release that it had loaded. -/
theorem interleaving_serial_iff (tag other : String) (files : FileTree) (storage : Path)
    (schedule : List (Step Writer)) (hsavable : Savable files storage)
    (hschedule : Interleaves (steps Writer.installation) (steps Writer.check) schedule) :
    (∀ (race : Race Writer) (writer : Writer),
      (race.run (Writer.change tag other) storage (steps writer)).files =
        (InstallState.update (writer.change tag other) race.files storage).1) ∧
      ((∃ order ∈ Writer.orders,
          raced tag other files storage schedule = ordered tag other files storage order) ↔
        (Overtakes schedule → (load files storage).installed = some tag)) ∧
      ((raced tag other files storage schedule).installed = some tag ↔
        (Overtakes schedule → (load files storage).installed = some tag)) ∧
      (Overtakes schedule →
        raced tag other files storage schedule = ⟨(load files storage).installed, some other⟩) := by
  have hovertaken := @raced_of_overtakes tag other files storage schedule hsavable hschedule
  refine ⟨files_run_steps _, ?_, ?_, hovertaken⟩
  · constructor
    · rintro ⟨order, horder, heq⟩ hovertakes
      have hinstalled := @installed_ordered tag other files storage order hsavable horder
      rwa [← heq, hovertaken hovertakes] at hinstalled
    · intro hrecorded
      by_cases hovertakes : Overtakes schedule
      · refine ⟨[.installation, .check], by simp [Writer.orders], ?_⟩
        rw [hovertaken hovertakes, hrecorded hovertakes, (ordered_eq hsavable).1]
      · exact raced_of_not_overtakes hsavable hschedule hovertakes
  · by_cases hovertakes : Overtakes schedule
    · simp [hovertaken hovertakes, hovertakes]
    · obtain ⟨order, horder, heq⟩ :=
        @raced_of_not_overtakes tag other files storage schedule hsavable hschedule hovertakes
      simp [heq, installed_ordered hsavable horder, hovertakes]

/-! ## A release that is forgotten -/

/-- A storage directory with a recorded release. -/
def recording (tag : String) : FileTree :=
  { entries :=
      [([encode "store".toList], .directory), ([encode "store".toList, InstallState.fileName],
        .file ⟨.text (InstallState.text ⟨some tag, none⟩), false⟩)] }

lemma savable_recording : Savable (recording "v1") (.ofText "/store") :=
  savable_of_save rfl
    (by decide +kernel : (InstallState.empty.save (recording "v1") _).2 = none)

/-- The check begins and ends while the installation goes on. -/
def inside : List (Step Writer) :=
  [.load .installation, .load .check, .save .check, .save .installation]

/-- The installation begins and ends while the check goes on. -/
def around : List (Step Writer) :=
  [.load .check, .load .installation, .save .installation, .save .check]

lemma interleaves_around :
    Interleaves (steps Writer.installation) (steps Writer.check) around :=
  .right (.left (.left (.right .nil)))

theorem interleaving_serial_iff_inside :
    (raced "v2" "v3" (recording "v1") (.ofText "/store") inside).installed = some "v2" ∧
      raced "v2" "v3" (recording "v1") (.ofText "/store") around =
        ⟨(load (recording "v1") (.ofText "/store")).installed, some "v3"⟩ := by
  have hinside : Interleaves (steps Writer.installation) (steps Writer.check) inside :=
    .left (.right (.right (.left .nil)))
  obtain ⟨-, -, hinstalled, -⟩ := interleaving_serial_iff "v2" "v3" (recording "v1")
    (.ofText "/store") inside savable_recording hinside
  obtain ⟨-, -, -, hforgotten⟩ := interleaving_serial_iff "v2" "v3" (recording "v1")
    (.ofText "/store") around savable_recording interleaves_around
  exact ⟨hinstalled.2 fun hovertakes => absurd hovertakes (by decide), hforgotten (by decide)⟩

/-- **An installed release may be forgotten** although it was installed and recorded: the state in
the end is that of neither order of whole changes. -/
theorem interleaving_may_forget_installed :
    ∃ (tag other : String) (files : FileTree) (storage : Path) (schedule : List (Step Writer)),
      Savable files storage ∧
        Interleaves (steps Writer.installation) (steps Writer.check) schedule ∧
        (∀ order ∈ Writer.orders,
          raced tag other files storage schedule ≠ ordered tag other files storage order) ∧
        (raced tag other files storage schedule).installed ≠ some tag := by
  refine ⟨"v2", "v3", recording "v1", .ofText "/store", around, savable_recording,
    interleaves_around, ?_, ?_⟩
  · intro order horder heq
    have hinstalled := @installed_ordered "v2" "v3" _ _ order savable_recording horder
    rw [← heq] at hinstalled
    revert hinstalled
    decide +kernel
  · decide +kernel

end Toolchain

end LanguageServer
