import Mathlib.Data.List.Induction
import Mathlib.Data.Option.Defs
import LanguageServer.Library.Builtin
import LanguageServer.Proofs.File.Parent
import LanguageServer.Proofs.Search
import LanguageServer.Workspace

/-!
# What a snapshot shows after a history

An editor opens, changes and closes documents in any order: a document may be opened again while it
is open, changed before it is opened or after it is closed, and it need not be a file.  What is
known of an address is decided by the actions at that address alone (`Workspace.get?_foldl_act`): a
document is open when nothing but changes came after it was last opened, and then it is the document
that was opened with those changes applied (`Workspace.get?_after_iff`).

A snapshot is that document with the open documents of its directory laid over the file tree.  As
long as different addresses have different paths, what is open at a path of the directory is what
the snapshot reads there (`Workspace.openText?_siblings_iff`), so a snapshot is determined by what
is known of each address.
-/

namespace LanguageServer

/-- The text after the changes, one after the other. -/
def Change.applyAll (changes : List Change) (text : String) : String :=
  String.ofList (changes.foldl (fun text change => change.apply text) text.toList)

/-- The snapshots show the same: one document, the same files, and at every path the same open
document, in whatever order the open documents are listed. -/
structure Snapshot.Alike (snapshot other : Snapshot) : Prop where
  address : snapshot.address = other.address
  text : snapshot.text = other.text
  path : snapshot.path = other.path
  library : snapshot.library = other.library
  files : snapshot.sources.files = other.sources.files
  openText? : snapshot.sources.openText? = other.sources.openText?

namespace Workspace

/-! ## Histories -/

/-- What an editor does with a document. -/
inductive Action where
  | opened (text : String) (version : Option Int)
  | changed (change : Change)
  | closed
deriving DecidableEq, Repr

/-- An action, and the address of the document that it is about. -/
structure Event where
  address : Address
  action : Action
deriving DecidableEq, Repr

/-- The workspace after one more event. -/
def act (workspace : Workspace) (event : Event) : Workspace :=
  match event.action with
  | .opened text version => workspace.openDocument event.address text version
  | .changed change => workspace.change event.address change
  | .closed => workspace.close event.address

/-- The workspace after the events, which begin without documents. -/
def after (events : List Event) : Workspace :=
  events.foldl act empty

/-- What an action makes of the document at its address. -/
def Action.onDocument : Action → Option Document → Option Document
  | .opened text version, _ => some (.opened text version)
  | .changed change, document => document.map (·.apply change)
  | .closed, _ => none

/-- The actions of the events at the address. -/
def actionsAt (address : Address) (events : List Event) : List Action :=
  (events.filter (·.address = address)).map Event.action

/-- The last time that the document at the address was opened it was with the text and the version,
and since then it was given exactly the changes, and not closed. -/
def OpenedLast (events : List Event) (address : Address) (text : String) (version : Option Int)
    (changes : List Change) : Prop :=
  ∃ before later, events = before ++ ⟨address, .opened text version⟩ :: later ∧
    actionsAt address later = changes.map .changed

/-- A document is open at the path, and this is its current text. -/
def OpenAt (events : List Event) (path : Path) (text : String) : Prop :=
  ∃ address own opened version changes, address.path? = some own ∧ own.same path = true ∧
    OpenedLast events address opened version changes ∧ text = Change.applyAll changes opened

/-- Do the addresses have paths, and the same ones? -/
def samePath (address other : Address) : Bool :=
  match address.path?, other.path? with
  | some path, some path' => path.same path'
  | _, _ => false

/-- Different addresses of the events have different paths, as far as they have paths. -/
def DistinctPaths (events : List Event) : Prop :=
  ∀ event ∈ events, ∀ event' ∈ events, samePath event.address event'.address = true →
    event.address = event'.address

instance (events : List Event) : Decidable (DistinctPaths events) :=
  inferInstanceAs (Decidable (∀ event ∈ events, ∀ event' ∈ events, _ → _))

/-! ## One address -/

variable {workspace : Workspace} {address : Address}

lemma get?_eq_none_iff :
    workspace.get? address = none ↔ ∀ entry ∈ workspace.documents, entry.1 ≠ address := by
  simp [get?]

lemma get?_close (workspace : Workspace) (address other : Address) :
    (workspace.close address).get? other =
      if address = other then none else workspace.get? other := by
  split
  · rename_i h
    subst h
    rw [get?_eq_none_iff]
    intro entry hentry
    simpa using (List.mem_filter.mp hentry).2
  · rename_i h
    rw [get?, get?, close, List.find?_filter]
    congr 2
    funext entry
    by_cases hentry : entry.1 = other
    · simp [hentry, Ne.symm h]
    · simp [hentry]

lemma get?_openDocument (workspace : Workspace) (address other : Address) (text : String)
    (version : Option Int) :
    (workspace.openDocument address text version).get? other =
      if address = other then some (.opened text version) else workspace.get? other := by
  rw [openDocument, get?, List.find?_cons]
  split
  · rename_i h
    rw [if_pos (by simpa using h), Option.map_some]
  · rename_i h
    have hne : address ≠ other := by simpa using h
    rw [← get?, get?_close, if_neg hne, if_neg hne]

lemma get?_change (workspace : Workspace) (address other : Address) (change : Change) :
    (workspace.change address change).get? other =
      if address = other then (workspace.get? other).map (·.apply change)
      else workspace.get? other := by
  rw [get?, Workspace.change, List.find?_map, Option.map_map]
  have hkeys : (fun entry : Address × Document => decide (entry.1 = other)) ∘
      (fun entry : Address × Document =>
        (entry.1, if entry.1 = address then entry.2.apply change else entry.2)) =
      fun entry => decide (entry.1 = other) := rfl
  rw [hkeys, get?]
  cases hfound : workspace.documents.find? (fun entry => decide (entry.1 = other)) with
  | none => simp
  | some entry =>
    have hkey : entry.1 = other := by simpa using List.find?_some hfound
    by_cases h : address = other <;> simp [h, hkey, Ne.symm]

/-- **An event decides about its own address, and about no other.** -/
lemma get?_act (workspace : Workspace) (event : Event) (address : Address) :
    (workspace.act event).get? address =
      if event.address = address then event.action.onDocument (workspace.get? address)
      else workspace.get? address := by
  unfold act
  split
  · rename_i text version haction
    rw [get?_openDocument, haction, Action.onDocument]
  · rename_i change haction
    rw [get?_change, haction, Action.onDocument]
  · rename_i haction
    rw [get?_close, haction, Action.onDocument]

/-- What is known of an address comes from the actions at it alone. -/
lemma get?_foldl_act (events : List Event) (workspace : Workspace) (address : Address) :
    (events.foldl act workspace).get? address =
      (actionsAt address events).foldl (fun document action => action.onDocument document)
        (workspace.get? address) := by
  induction events generalizing workspace with
  | nil => rfl
  | cons event events ih =>
    rw [List.foldl_cons, ih, get?_act, actionsAt]
    by_cases h : event.address = address
    · simp [h, actionsAt]
    · simp [h, actionsAt]

lemma actionsAt_append (address : Address) (events more : List Event) :
    actionsAt address (events ++ more) = actionsAt address events ++ actionsAt address more := by
  simp [actionsAt]

lemma foldl_changed (changes : List Change) (document : Document) :
    (changes.map Action.changed).foldl (fun document action => action.onDocument document)
        (some document) = some (changes.foldl .apply document) := by
  induction changes generalizing document with
  | nil => rfl
  | cons change changes ih =>
    rw [List.map_cons, List.foldl_cons, List.foldl_cons, ← ih]
    rfl

variable {events : List Event} {text : String} {version : Option Int} {changes : List Change}

lemma OpenedLast.get? (h : OpenedLast events address text version changes) :
    (after events).get? address = some (changes.foldl .apply (.opened text version)) := by
  obtain ⟨before, later, rfl, hchanges⟩ := h
  rw [after, List.foldl_append, List.foldl_cons, get?_foldl_act, hchanges, get?_act, if_pos rfl,
    Action.onDocument, foldl_changed]

/-- A document that is open was opened at some time, and after the last time only changed. -/
lemma openedLast_of_get? {document : Document} (h : (after events).get? address = some document) :
    ∃ text version changes, OpenedLast events address text version changes := by
  induction events using List.reverseRecOn generalizing document with
  | nil => cases h
  | append_singleton events event ih =>
    rw [after, List.foldl_append, List.foldl_cons, List.foldl_nil, ← after, get?_act] at h
    by_cases hother : event.address = address
    · rw [if_pos hother] at h
      cases haction : event.action with
      | opened text version =>
        refine ⟨text, version, [], events, [], ?_, rfl⟩
        rw [← hother, ← haction]
      | changed change =>
        rw [haction, Action.onDocument, Option.map_eq_some_iff] at h
        obtain ⟨earlier, hearlier, -⟩ := h
        obtain ⟨text, version, changes, before, later, rfl, hchanges⟩ := ih hearlier
        refine ⟨text, version, changes ++ [change], before, later ++ [event], by simp, ?_⟩
        rw [actionsAt_append, hchanges, List.map_append]
        simp [actionsAt, hother, haction]
      | closed =>
        rw [haction] at h
        cases h
    · rw [if_neg hother] at h
      obtain ⟨text, version, changes, before, later, rfl, hchanges⟩ := ih h
      refine ⟨text, version, changes, before, later ++ [event], by simp, ?_⟩
      rw [actionsAt_append, hchanges]
      simp [actionsAt, hother]

/-- **A document is open after a history when it was opened and not closed since, and then it is the
document that was opened, with all changes since.** -/
lemma get?_after_iff {document : Document} :
    (after events).get? address = some document ↔
      ∃ text version changes, OpenedLast events address text version changes ∧
        changes.foldl .apply (.opened text version) = document := by
  constructor
  · intro h
    obtain ⟨text, version, changes, hopened⟩ := openedLast_of_get? h
    refine ⟨text, version, changes, hopened, ?_⟩
    rw [← Option.some_inj, ← h, hopened.get?]
  · rintro ⟨text, version, changes, hopened, rfl⟩
    exact hopened.get?

lemma text_foldl_apply (changes : List Change) (document : Document) :
    (changes.foldl .apply document).text = Change.applyAll changes document.text := by
  induction changes generalizing document with
  | nil => exact String.ofList_toList.symm
  | cons change changes ih =>
    rw [List.foldl_cons, ih]
    simp [Change.applyAll, Document.apply]

/-! ## One directory -/

lemma sameDirectory_iff {p q : Option Path} :
    sameDirectory p q = true ↔ p.map Path.components = q.map Path.components := by
  cases p <;> cases q <;> simp [sameDirectory, Path.same]

/-- It does not matter in which of several ways a path is written. -/
lemma sameDirectory_congr {path other : Path} (h : path.same other = true)
    (directory : Option Path) :
    sameDirectory path.parent? directory = sameDirectory other.parent? directory := by
  have hcomponents : path.components = other.components := by simpa [Path.same] using h
  rw [Bool.eq_iff_iff, sameDirectory_iff, sameDirectory_iff, Path.components_parent?,
    Path.components_parent?, hcomponents]

/-- Where the documents that are listed for a path agree, it makes no difference which of them is
found. -/
lemma openText?_eq_some_iff {sources : Sources} {path : Path} {text : String}
    (hagree : ∀ entry ∈ sources.opened, ∀ entry' ∈ sources.opened, entry.1.same path = true →
      entry'.1.same path = true → entry.2 = entry'.2) :
    sources.openText? path = some text ↔
      ∃ entry ∈ sources.opened, entry.1.same path = true ∧ entry.2 = text := by
  rw [Sources.openText?, Option.map_eq_some_iff]
  constructor
  · rintro ⟨entry, hfound, htext⟩
    have hsame : entry.1.same path = true := by simpa using List.find?_some hfound
    exact ⟨entry, List.mem_reverse.mp (List.mem_of_find?_eq_some hfound), hsame, htext⟩
  · rintro ⟨entry, hentry, hsame, htext⟩
    have hsome : (sources.opened.reverse.find? fun entry => entry.1.same path).isSome = true := by
      rw [List.find?_isSome]
      exact ⟨entry, List.mem_reverse.mpr hentry, hsame⟩
    obtain ⟨first, hfirst⟩ := Option.isSome_iff_exists.mp hsome
    have hmem := List.mem_reverse.mp (List.mem_of_find?_eq_some hfirst)
    have hsame' : first.1.same path = true := by simpa using List.find?_some hfirst
    exact ⟨first, hfirst, (hagree first hmem entry hentry hsame' hsame).trans htext⟩

lemma nodup_act (h : (workspace.documents.map (·.1)).Nodup) (event : Event) :
    ((workspace.act event).documents.map (·.1)).Nodup := by
  have hclose : ((workspace.close event.address).documents.map (·.1)).Nodup :=
    h.sublist (List.filter_sublist.map _)
  unfold act
  split
  · rw [openDocument, List.map_cons, List.nodup_cons]
    refine ⟨?_, hclose⟩
    simp [close]
  · rw [change, List.map_map]
    exact h
  · exact hclose

lemma nodup_after (events : List Event) : ((after events).documents.map (·.1)).Nodup := by
  induction events using List.reverseRecOn with
  | nil => exact List.nodup_nil
  | append_singleton events event ih =>
    rw [after, List.foldl_append]
    exact nodup_act ih event

lemma mem_documents_iff {document : Document} :
    (address, document) ∈ (after events).documents ↔
      (after events).get? address = some document := by
  rw [Workspace.get?, Option.map_eq_some_iff]
  constructor
  · intro h
    exact ⟨(address, document), (find?_eq_some_iff_of_nodup (nodup_after events)).mpr ⟨h, rfl⟩, rfl⟩
  · rintro ⟨⟨key, document⟩, hfound, rfl⟩
    have hkey : key = address := by simpa using List.find?_some hfound
    subst hkey
    exact List.mem_of_find?_eq_some hfound

lemma mem_siblings_iff {directory : Option Path} {entry : Path × String} :
    entry ∈ (after events).siblings directory ↔
      sameDirectory entry.1.parent? directory = true ∧ ∃ address document,
        (after events).get? address = some document ∧ address.path? = some entry.1 ∧
          document.text = entry.2 := by
  obtain ⟨path, text⟩ := entry
  simp only [siblings, List.mem_filterMap, Prod.exists, mem_documents_iff, Option.bind_eq_bind,
    Option.bind_eq_some_iff, Option.ite_none_right_eq_some, Option.some.injEq, Prod.mk.injEq]
  constructor
  · rintro ⟨address, document, hget, path', hpath, hsame, rfl, rfl⟩
    exact ⟨hsame, address, document, hget, hpath, rfl⟩
  · rintro ⟨hsame, address, document, hget, hpath, rfl⟩
    exact ⟨address, document, hget, path, hpath, hsame, rfl, rfl⟩

lemma OpenedLast.exists_event (h : OpenedLast events address text version changes) :
    ∃ event ∈ events, event.address = address := by
  obtain ⟨before, later, rfl, -⟩ := h
  exact ⟨⟨address, .opened text version⟩, by simp, rfl⟩

/-- At one path at most one document is open. -/
lemma eq_of_samePath (hpaths : DistinctPaths events) {other : Address}
    {document document' : Document}
    (h : (after events).get? address = some document)
    (h' : (after events).get? other = some document') (hsame : samePath address other = true) :
    address = other := by
  obtain ⟨_, _, _, hopened⟩ := openedLast_of_get? h
  obtain ⟨_, _, _, hopened'⟩ := openedLast_of_get? h'
  obtain ⟨event, hevent, rfl⟩ := hopened.exists_event
  obtain ⟨event', hevent', rfl⟩ := hopened'.exists_event
  exact hpaths event hevent event' hevent' hsame

lemma openAt_iff {path : Path} :
    OpenAt events path text ↔ ∃ address own document, address.path? = some own ∧
      own.same path = true ∧ (after events).get? address = some document ∧
        document.text = text := by
  constructor
  · rintro ⟨address, own, opened, version, changes, hpath, hsame, hopened, rfl⟩
    exact ⟨address, own, _, hpath, hsame, hopened.get?, text_foldl_apply _ _⟩
  · rintro ⟨address, own, document, hpath, hsame, hget, rfl⟩
    obtain ⟨opened, version, changes, hopened, rfl⟩ := get?_after_iff.mp hget
    exact ⟨address, own, opened, version, changes, hpath, hsame, hopened, text_foldl_apply _ _⟩

/-- **A snapshot lays over the file tree what is open at the paths of its directory.** -/
lemma openText?_siblings_iff (hpaths : DistinctPaths events) (files : FileTree)
    {directory : Option Path} {path : Path} :
    Sources.openText? ⟨files, (after events).siblings directory⟩ path = some text ↔
      sameDirectory path.parent? directory = true ∧ OpenAt events path text := by
  rw [openText?_eq_some_iff, openAt_iff]
  · constructor
    · rintro ⟨entry, hentry, hsame, rfl⟩
      obtain ⟨hdirectory, address, document, hget, hpath, htext⟩ := mem_siblings_iff.mp hentry
      rw [sameDirectory_congr hsame] at hdirectory
      exact ⟨hdirectory, address, entry.1, document, hpath, hsame, hget, htext⟩
    · rintro ⟨hdirectory, address, own, document, hpath, hsame, hget, htext⟩
      rw [← sameDirectory_congr hsame] at hdirectory
      exact ⟨(own, text), mem_siblings_iff.mpr ⟨hdirectory, address, document, hget, hpath, htext⟩,
        hsame, rfl⟩
  · -- two documents at the path have one address, so they are one document
    intro entry hentry entry' hentry' hsame hsame'
    obtain ⟨-, address, document, hget, hpath, htext⟩ := mem_siblings_iff.mp hentry
    obtain ⟨-, other, document', hget', hpath', htext'⟩ := mem_siblings_iff.mp hentry'
    have haddress : address = other := by
      refine eq_of_samePath hpaths hget hget' ?_
      simp_all [samePath, Path.same]
    subst haddress
    rw [hget, Option.some_inj] at hget'
    rw [← htext, ← htext', hget']

/-! ## Snapshots -/

variable {library : Library} {files : FileTree}

lemma snapshot?_of_get? {document : Document} (h : (after events).get? address = some document) :
    (after events).snapshot? library files address = some
      { address, text := document.text, path := address.path?, library
        sources := ⟨files, (after events).siblings (address.path?.bind Path.parent?)⟩ } := by
  rw [snapshot?, h]
  rfl

lemma snapshot?_eq_none_iff :
    (after events).snapshot? library files address = none ↔
      (after events).get? address = none := by
  rw [snapshot?]
  cases (after events).get? address <;> simp

/-- Events at different addresses may come in either order. -/
lemma get?_after_swap {event event' : Event} (h : event.address ≠ event'.address)
    (before later : List Event) (address : Address) :
    (after (before ++ event' :: event :: later)).get? address =
      (after (before ++ event :: event' :: later)).get? address := by
  have hactions : actionsAt address (before ++ event' :: event :: later) =
      actionsAt address (before ++ event :: event' :: later) := by
    by_cases haddress : event.address = address
    · subst haddress
      simp [actionsAt, Ne.symm h]
    · simp [actionsAt, List.filter_cons, haddress]
  rw [after, after, get?_foldl_act, get?_foldl_act, hactions]

/-- Workspaces that know the same of every address have snapshots that show the same. -/
lemma alike_of_get?_eq {events' : List Event} (hpaths : DistinctPaths events)
    (hpaths' : DistinctPaths events')
    (h : ∀ address, (after events').get? address = (after events).get? address)
    (address : Address) :
    Option.Rel Snapshot.Alike ((after events).snapshot? library files address)
      ((after events').snapshot? library files address) := by
  cases hget : (after events).get? address with
  | none =>
    rw [snapshot?_eq_none_iff.mpr hget, snapshot?_eq_none_iff.mpr ((h address).trans hget)]
    exact Option.Rel.none
  | some document =>
    rw [snapshot?_of_get? hget, snapshot?_of_get? ((h address).trans hget)]
    refine Option.Rel.some ⟨rfl, rfl, rfl, rfl, rfl, ?_⟩
    funext path
    apply Option.ext
    intro text
    rw [openText?_siblings_iff hpaths, openText?_siblings_iff hpaths', openAt_iff, openAt_iff]
    simp only [h]

lemma read?_siblings (hpaths : DistinctPaths events) {directory : Option Path} {path : Path}
    (hdirectory : sameDirectory path.parent? directory = true) :
    (∀ current, OpenAt events path current →
        Sources.read? ⟨files, (after events).siblings directory⟩ path = some current) ∧
      ((¬ ∃ current, OpenAt events path current) →
        Sources.read? ⟨files, (after events).siblings directory⟩ path = files.readText? path) := by
  constructor
  · intro current hopen
    rw [Sources.read?, (openText?_siblings_iff hpaths files).mpr ⟨hdirectory, hopen⟩,
      Option.some_or]
  · intro hclosed
    have hnone : Sources.openText? ⟨files, (after events).siblings directory⟩ path = none := by
      rw [Option.eq_none_iff_forall_ne_some]
      intro current hcurrent
      exact hclosed ⟨current, ((openText?_siblings_iff hpaths files).mp hcurrent).2⟩
    rw [Sources.read?, hnone, Option.none_or]

/-- **A snapshot shows what the history left.**  A document that is not open has none.  That of an
open document has the text with which it was last opened, with all changes since; at a path of its
directory it reads the current text of the document that is open there, and the file when none is.
Events at different addresses may be exchanged, and it shows the same. -/
theorem snapshot_shows_history (library : Library) (files : FileTree) (events : List Event)
    (hpaths : DistinctPaths events) (address : Address) :
    ((after events).snapshot? library files address = none ↔
      ¬ ∃ text version changes, OpenedLast events address text version changes) ∧
    (∀ text version changes, OpenedLast events address text version changes →
      ∃ snapshot, (after events).snapshot? library files address = some snapshot ∧
        snapshot.address = address ∧ snapshot.path = address.path? ∧ snapshot.library = library ∧
        snapshot.text = Change.applyAll changes text ∧
        ∀ path, sameDirectory path.parent? snapshot.directory = true →
          (∀ current, OpenAt events path current →
            snapshot.sources.read? path = some current) ∧
          ((¬ ∃ current, OpenAt events path current) →
            snapshot.sources.read? path = files.readText? path)) ∧
    (∀ before event event' later, events = before ++ event :: event' :: later →
      event.address ≠ event'.address →
        Option.Rel Snapshot.Alike ((after events).snapshot? library files address)
          ((after (before ++ event' :: event :: later)).snapshot? library files address)) := by
  refine ⟨?_, ?_, ?_⟩
  · rw [snapshot?_eq_none_iff, Option.eq_none_iff_forall_ne_some]
    constructor
    · rintro hnone ⟨text, version, changes, hopened⟩
      exact hnone _ hopened.get?
    · intro hnever document hget
      exact hnever (openedLast_of_get? hget)
  · intro text version changes hopened
    refine ⟨_, snapshot?_of_get? hopened.get?, rfl, rfl, rfl, text_foldl_apply _ _, ?_⟩
    intro path hdirectory
    exact read?_siblings hpaths hdirectory
  · rintro before event event' later rfl hne
    have hpaths' : DistinctPaths (before ++ event' :: event :: later) := by
      have hmem : ∀ other, other ∈ before ++ event' :: event :: later →
          other ∈ before ++ event :: event' :: later := by
        intro other
        simp only [List.mem_append, List.mem_cons]
        tauto
      exact fun first hfirst second hsecond =>
        hpaths first (hmem first hfirst) second (hmem second hsecond)
    exact alike_of_get?_eq hpaths hpaths' (get?_after_swap hne before later) address

/-- A change before anything is open, a document that is opened twice, one that is closed, and one
without a path: the snapshot of the first file shows its own text and the unsaved text of the
second, however the path of the second is written. -/
theorem snapshot_shows_history_reopened :
    let file (name : String) : Address :=
      ⟨"file", some ⟨"", none, none⟩, .segments ["work", name], none, none⟩
    let draft : Address := ⟨"untitled", none, .plain "draft", none, none⟩
    let first := file "main.aelys"
    let second := file "util.aelys"
    let events : List Event :=
      [⟨second, .changed ⟨none, "lost"⟩⟩, ⟨first, .opened "needs" none⟩,
        ⟨second, .opened "fn u()" (some 1)⟩, ⟨first, .opened "let x = 1" (some 1)⟩,
        ⟨draft, .opened "note" none⟩, ⟨second, .changed ⟨some ⟨⟨0, 0⟩, ⟨0, 0⟩⟩, "pub "⟩⟩,
        ⟨first, .changed ⟨some ⟨⟨0, 8⟩, ⟨0, 9⟩⟩, "u"⟩⟩, ⟨draft, .closed⟩]
    DistinctPaths events ∧
      ∃ snapshot, (after events).snapshot? Library.builtin FileTree.empty first = some snapshot ∧
        snapshot.text = "let x = u" ∧
        snapshot.sources.read? (.ofText "/work/./util.aelys") = some "pub fn u()" := by
  intro file draft first second events
  have hpaths : DistinctPaths events := by decide +kernel
  refine ⟨hpaths, ?_⟩
  obtain ⟨-, hopen, -⟩ := snapshot_shows_history Library.builtin FileTree.empty events hpaths first
  obtain ⟨snapshot, hsnapshot, -, hpath, -, htext, hread⟩ :=
    hopen "let x = 1" (some 1) [⟨some ⟨⟨0, 8⟩, ⟨0, 9⟩⟩, "u"⟩]
      ⟨events.take 3, events.drop 4, by decide +kernel, by decide +kernel⟩
  refine ⟨snapshot, hsnapshot, htext.trans (by decide +kernel), ?_⟩
  have hdirectory : sameDirectory (Path.ofText "/work/./util.aelys").parent? snapshot.directory =
      true := by
    rw [Snapshot.directory, hpath]
    decide +kernel
  refine (hread _ hdirectory).1 _ ?_
  exact ⟨second, .ofText "/work/util.aelys", "fn u()", some 1,
    [⟨some ⟨⟨0, 0⟩, ⟨0, 0⟩⟩, "pub "⟩], by decide +kernel, by decide +kernel,
    ⟨events.take 2, events.drop 3, by decide +kernel, by decide +kernel⟩, by decide +kernel⟩

end Workspace

end LanguageServer
