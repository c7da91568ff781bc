import Mathlib.Tactic.Common
import LanguageServer.Proofs.File.Making
import LanguageServer.Proofs.Json.RoundTrip
import LanguageServer.Toolchain.State

/-!
# Saving and loading the state of the toolchain

The text of a state records the state (`InstallState.ofText_text`), so a state that was saved is
loaded again (`InstallState.load_of_save`).  Saving writes to two names of the storage directory
only; when it fails, the file of the state is not among them (`InstallState.evolves_of_save_error`).

What is loaded after a failure is therefore what was loaded before it, with one exception: saving
makes the storage directory first, and a path that could not be followed before may lead to a stored
state afterwards.  `InstallState.stored_state_roundTrip` says all of this together.
-/

namespace LanguageServer

open Text FileTree

namespace InstallState

/-! ## The text of a state -/

/-- The members of the stored object. -/
def members (state : InstallState) : List (String × String) :=
  (state.installed.map fun tag => ("installedVersion", tag)).toList ++
    (state.ignored.map fun tag => ("ignoredVersion", tag)).toList

lemma toJson_eq (state : InstallState) :
    state.toJson = .object (state.members.map Json.textMember) := by
  obtain ⟨installed, ignored⟩ := state
  cases installed <;> cases ignored <;> rfl

lemma ofJson?_toJson (state : InstallState) : ofJson? state.toJson = some state := by
  obtain ⟨installed, ignored⟩ := state
  cases installed <;> cases ignored <;> rfl

/-- **The text of a state records the state.** -/
lemma ofText_text (state : InstallState) : ofText state.text = state := by
  have hparse : Json.parse? state.text = some state.toJson := by
    rw [text, toJson_eq]
    exact Json.parse?_pretty_texts state.members
  rw [ofText, hparse, Option.bind_some, ofJson?_toJson, Option.getD_some]

/-! ## The files of a state -/

/-- The name of the file of the state. -/
def fileName : FileName := encode "state.json".toList

/-- The name of the file that a new state is written to first. -/
def draftName : FileName := encode "state.json.tmp".toList

lemma plain_fileName : fileName.Plain := by constructor <;> decide

lemma plain_draftName : draftName.Plain := by constructor <;> decide

variable {state : InstallState} {files after : FileTree} {storage : Path}

lemma evolvesIn_makeStorage {made : FileTree} {cause : Option SaveError} (names : List FileName)
    (h : makeStorage files storage = (made, cause)) : EvolvesIn storage names files made := by
  unfold makeStorage at h
  split at h
  · cases h
    exact .refl _ _
  next directory _ =>
    cases h
    exact (evolves_makeDirectories files directory).mono (List.nil_subset _)

/-- The draft is written where a state is saved, whatever becomes of it. -/
lemma evolves_draft {made written : FileTree} {cause : Option SaveError}
    {failure : Option FileError} {content : Content}
    (hmade : makeStorage files storage = (made, cause))
    (hwritten : made.write (draft storage) content = (written, failure)) :
    EvolvesIn storage [draftName] files written :=
  (evolvesIn_makeStorage _ hmade).trans (evolves_write_child plain_draftName hwritten)

lemma save_steps (h : state.save files storage = (after, none)) :
    ∃ made written, makeStorage files storage = (made, none) ∧
      made.write (draft storage) (.text state.text) = (written, none) ∧
      written.rename (draft storage) (file storage) = .ok after := by
  unfold save at h
  split at h
  · cases h
  next made hmade =>
    split at h
    · cases h
    next written hwritten =>
      split at h
      · cases h
      next replaced hrename =>
        cases h
        exact ⟨made, written, hmade, hwritten, hrename⟩

/-- **Saving leaves the text of the state** in its file. -/
lemma save_ok (h : state.save files storage = (after, none)) :
    EvolvesIn storage [draftName, fileName] files after ∧
      ∃ executable, after.file? (file storage) = some ⟨.text state.text, executable⟩ := by
  obtain ⟨made, written, hmade, hwritten, hrename⟩ := save_steps h
  obtain ⟨executable, hdraft⟩ := nodeIn_of_write plain_draftName hwritten
  obtain ⟨hevolves, -, moved, hmoved, hfile⟩ :=
    rename_child plain_draftName plain_fileName (by decide) hrename
  cases hdraft.symm.trans hmoved
  exact ⟨((evolves_draft hmade hwritten).mono (by simp)).trans hevolves, executable, hfile⟩

lemma nodeIn_draft_of_save (h : state.save files storage = (after, none)) :
    after.nodeIn storage draftName = none := by
  obtain ⟨made, written, -, -, hrename⟩ := save_steps h
  exact (rename_child plain_draftName plain_fileName (by decide) hrename).2.1

/-- **A failed save touches the draft only.** -/
lemma evolves_of_save_error {e : SaveError} (h : state.save files storage = (after, some e)) :
    EvolvesIn storage [draftName] files after := by
  unfold save at h
  split at h
  next made e hmade =>
    cases h
    exact evolvesIn_makeStorage _ hmade
  next made hmade =>
    split at h
    next written e hwritten =>
      cases h
      exact evolves_draft hmade hwritten
    next written hwritten =>
      split at h
      · cases h
        exact evolves_draft hmade hwritten
      · cases h

/-! ## Loading -/

lemma load_of_file? {executable : Bool}
    (h : files.file? (file storage) = some ⟨.text state.text, executable⟩) :
    load files storage = state := by
  simp only [load, readText?, h, Option.bind_some, Content.text?]
  exact ofText_text state

lemma load_congr (h : after.file? (file storage) = files.file? (file storage)) :
    load after storage = load files storage := by
  rw [load, load, readText?, readText?, h]

/-- **A state that was saved is loaded again.** -/
lemma load_of_save (h : state.save files storage = (after, none)) : load after storage = state := by
  obtain ⟨-, executable, hfile⟩ := save_ok h
  exact load_of_file? hfile

lemma save_of_update {change : InstallState → InstallState}
    (h : update change files storage = (after, .ok state)) :
    state = change (load files storage) ∧ state.save files storage = (after, none) := by
  unfold update at h
  dsimp only at h
  split at h
  next saved hsave =>
    cases h
    exact ⟨rfl, hsave⟩
  · cases h

lemma evolves_of_update_error {change : InstallState → InstallState} {e : SaveError}
    (h : update change files storage = (after, .error e)) :
    EvolvesIn storage [draftName] files after := by
  unfold update at h
  dsimp only at h
  split at h
  · cases h
  next saved cause hsave =>
    cases h
    exact evolves_of_save_error hsave

/-! ## Failures -/

/-- The state that the file of the storage directory records, whether or not the path of the
directory leads there. -/
def recorded (files : FileTree) (storage : Path) : InstallState :=
  match files.nodeIn storage fileName with
  | some (.file file) => (file.content.text?.map ofText).getD empty
  | _ => empty

lemma recorded_of_file {found : File}
    (h : files.nodeIn storage fileName = some (.file found)) :
    recorded files storage = (found.content.text?.map ofText).getD empty := by
  rw [recorded, h]

lemma recorded_eq_empty
    (h : ∀ found, files.nodeIn storage fileName ≠ some (.file found)) :
    recorded files storage = empty := by
  unfold recorded
  split
  next found hfound => exact absurd hfound (h found)
  · rfl

lemma recorded_congr {names : List FileName} (h : EvolvesIn storage names files after)
    (hname : fileName ∉ names) : recorded after storage = recorded files storage := by
  by_cases hfile : ∃ found, files.nodeIn storage fileName = some (.file found)
  · obtain ⟨found, hfound⟩ := hfile
    rw [recorded_of_file hfound, recorded_of_file ((h.file_iff hname found).2 hfound)]
  · have hnone := not_exists.1 hfile
    rw [recorded_eq_empty hnone,
      recorded_eq_empty fun found hfound => hnone found ((h.file_iff hname found).1 hfound)]

lemma load_of_not_opens (h : ¬ files.Opens storage) : load files storage = empty := by
  have hfile : files.file? (file storage) = none :=
    Option.eq_none_iff_forall_ne_some.2 fun found hfound =>
      h ((file?_child plain_fileName found).1 hfound).2.1
  rw [load, readText?, hfile, Option.bind_none]

/-- What is loaded is recorded in the file, or it is nothing. -/
lemma load_eq (files : FileTree) (storage : Path) :
    load files storage = recorded files storage ∨ load files storage = empty := by
  cases hfile : files.file? (file storage) with
  | none => exact .inr (by rw [load, readText?, hfile, Option.bind_none])
  | some found =>
    obtain ⟨-, -, hnode⟩ := (file?_child plain_fileName found).1 hfile
    left
    rw [recorded_of_file hnode, load, readText?, hfile, Option.bind_some]
    cases found.content.text? <;> rfl

/-- What is loaded changes without the file of the state only if the storage directory opens that
did not open before. -/
lemma load_of_evolves (h : EvolvesIn storage [draftName] files after) :
    load after storage = load files storage ∨
      ¬ files.Opens storage ∧ after.Opens storage ∧
        load after storage = recorded files storage := by
  by_cases hopens : files.Opens storage
  · exact .inl (load_congr (h.file?_child (.inl hopens) plain_fileName (by decide)))
  · rw [load_of_not_opens hopens]
    by_cases hafter : after.Opens storage
    · rcases load_eq after storage with hload | hload
      · exact .inr ⟨hopens, hafter, hload.trans (recorded_congr h (by decide))⟩
      · exact .inl hload
    · exact .inl (load_of_not_opens hafter)

/-- **What is loaded after a failure**, where what lies in the storage directory can be had by its
path, is what was loaded before. -/
lemma load_of_reaches (h : EvolvesIn storage [draftName] files after)
    (hreaches : files.Reaches storage) : load after storage = load files storage :=
  load_congr (h.file?_child hreaches plain_fileName (by decide))

/-- Without pairs of dots in the path a failure makes nothing visible. -/
lemma load_of_rooted (h : EvolvesIn storage [draftName] files after) (hrooted : files.Rooted)
    (habove : Path.above ∉ storage.parts) : load after storage = load files storage := by
  rcases load_of_evolves h with hload | ⟨-, hopens, -⟩
  · exact hload
  · exact load_of_reaches h (hrooted.reaches_of_opens habove hopens)

/-- **The stored state is what was stored last.**  A state that was saved is loaded again.  A change
that was made is the change of what was loaded before, and what it leaves alone stays.  After a
failure, of saving or of changing, what was loaded before is loaded again, as long as what lies in
the storage directory could be had by its path; in a file system this is so for every path without
pairs of dots.  Otherwise the failure may have made the way to the directory, and then the state is
loaded that is recorded there. -/
theorem stored_state_roundTrip (state : InstallState) (change : InstallState → InstallState)
    (files after : FileTree) (storage : Path) :
    (state.save files storage = (after, none) → load after storage = state) ∧
      (∀ result, update change files storage = (after, .ok result) →
        result = change (load files storage) ∧
          load after storage = change (load files storage) ∧
          ∀ field : InstallState → Option String, (∀ other, field (change other) = field other) →
            field (load after storage) = field (load files storage)) ∧
      ((∃ e, state.save files storage = (after, some e)) ∨
          (∃ e, update change files storage = (after, .error e)) →
        (files.Reaches storage → load after storage = load files storage) ∧
          (files.Rooted → Path.above ∉ storage.parts →
            load after storage = load files storage) ∧
          (load after storage = load files storage ∨
            ¬ files.Opens storage ∧ after.Opens storage ∧
              load after storage = recorded files storage)) := by
  refine ⟨load_of_save, fun result hupdate => ?_, fun hfailure => ?_⟩
  · obtain ⟨rfl, hsave⟩ := save_of_update hupdate
    have hload := load_of_save hsave
    refine ⟨rfl, hload, fun field hfield => ?_⟩
    rw [hload, hfield]
  · have hevolves : EvolvesIn storage [draftName] files after := by
      rcases hfailure with ⟨e, hsave⟩ | ⟨e, hupdate⟩
      · exact evolves_of_save_error hsave
      · exact evolves_of_update_error hupdate
    exact ⟨load_of_reaches hevolves, load_of_rooted hevolves, load_of_evolves hevolves⟩

/-! ## A state that comes to light -/

/-- A state with characters that are written in another way than they are. -/
def quoted : InstallState :=
  ⟨some (String.ofList ['"', '\\', '\n', Char.ofNat 0, Char.ofNat 0x7F, Char.ofNat 0x1F600]), none⟩

/-- A state is stored, but a directory stands where a new one is written. -/
def undraftable : FileTree :=
  { entries :=
      [([encode "store".toList], .directory),
        ([encode "store".toList, fileName], .file ⟨.text (text ⟨some "v1", none⟩), false⟩),
        ([encode "store".toList, draftName], .directory)] }

lemma rooted_undraftable : undraftable.Rooted := by
  refine rooted_of_entries fun entry hentry => ?_
  simp only [undraftable, List.mem_cons, List.not_mem_nil, or_false] at hentry
  rcases hentry with rfl | rfl | rfl <;> rfl

/-- The files after the state was saved where nothing was. -/
def quotedSaved : FileTree := (quoted.save .empty (.ofText "/store")).1

/-- The state with another tag that is not wanted. -/
def unwanting (state : InstallState) : InstallState := { state with ignored := some "v2" }

/-- A state with such characters is saved and loaded, one of its tags is replaced and the other one
stays, and where nothing can be saved the old state is loaded. -/
theorem stored_state_roundTrip_quoted :
    load quotedSaved (.ofText "/store") = quoted ∧
      (load (update unwanting quotedSaved (.ofText "/store")).1 (.ofText "/store")).installed =
        (load quotedSaved (.ofText "/store")).installed ∧
      (quoted.save undraftable (.ofText "/store")).2 =
        some (.writing (.ofText "/store/state.json.tmp")) ∧
      load (quoted.save undraftable (.ofText "/store")).1 (.ofText "/store") =
        load undraftable (.ofText "/store") := by
  have hsave : quoted.save .empty (.ofText "/store") = (quotedSaved, none) :=
    Prod.ext rfl (by decide +kernel)
  have hupdate : update unwanting quotedSaved (.ofText "/store") =
      ((update unwanting quotedSaved (.ofText "/store")).1, .ok (unwanting quoted)) :=
    Prod.ext rfl (by decide +kernel)
  have hfailure : (quoted.save undraftable (.ofText "/store")).2 =
      some (.writing (.ofText "/store/state.json.tmp")) := by
    decide +kernel
  refine ⟨(stored_state_roundTrip quoted id .empty quotedSaved _).1 hsave, ?_, hfailure, ?_⟩
  · obtain ⟨-, hchanged, -⟩ := stored_state_roundTrip quoted unwanting quotedSaved _ _
    exact (hchanged _ hupdate).2.2 installed fun _ => rfl
  · obtain ⟨-, -, hfailed⟩ := stored_state_roundTrip quoted id undraftable _ _
    exact (hfailed (.inl ⟨_, Prod.ext rfl hfailure⟩)).2.1 rooted_undraftable (by decide)

/-- **A failed save may change what is loaded**: the save made the way to the stored state. -/
theorem failed_save_may_change_loaded :
    ∃ (state : InstallState) (files after : FileTree) (storage : Path) (e : SaveError),
      state.save files storage = (after, some e) ∧
        load after storage ≠ load files storage := by
  refine ⟨⟨some "v2", none⟩, undraftable, _, .ofText "/gone/../store",
    .writing (.ofText "/gone/../store/state.json.tmp"), Prod.ext rfl (by decide +kernel), ?_⟩
  decide +kernel

end InstallState

end LanguageServer
