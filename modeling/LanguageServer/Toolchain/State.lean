import LanguageServer.File.Tree
import LanguageServer.Json.Printer
import LanguageServer.Json.Reader

/-!
# The stored state of the toolchain

Next to the installed compiler a file `state.json` records which release is installed and which one
the user does not want.  A file that is missing, unreadable or not understood counts as an empty
state.

Saving replaces the file as a whole: the new text is written to a file beside it, which then takes
its place.  The directory is made first if it is missing.  When a step fails the earlier steps stay
done, but the file itself is as it was before (`InstallState.save`).
-/

namespace LanguageServer

/-- What is known about installed releases. -/
structure InstallState where
  /-- The tag of the installed release. -/
  installed : Option String
  /-- The tag of a release that the user does not want. -/
  ignored : Option String
deriving DecidableEq, Repr

/-- The step at which saving a state failed, with the path that it failed at. -/
inductive SaveError where
  | creating (directory : Path)
  | writing (file : Path)
  | replacing (file : Path)
deriving DecidableEq, Repr

/-- The message for a failed step. -/
def SaveError.message : SaveError → String
  | .creating directory => "creating " ++ directory.text
  | .writing file => "writing " ++ file.text
  | .replacing file => "replacing " ++ file.text

namespace InstallState

/-- The state before anything was installed. -/
def empty : InstallState := ⟨none, none⟩

/-! ## The text of a state -/

/-- The state as JSON; absent tags are left out. -/
def toJson (state : InstallState) : Json :=
  .object
    ((state.installed.map fun tag => ("installedVersion", Json.text tag)).toList ++
      (state.ignored.map fun tag => ("ignoredVersion", Json.text tag)).toList)

/-- Reads a state from JSON. -/
def ofJson? (value : Json) : Option InstallState := do
  match ← value.record? ["installedVersion", "ignoredVersion"] with
  | [installed, ignored] =>
    some ⟨← Json.optionalText? installed, ← Json.optionalText? ignored⟩
  | _ => none

/-- The text that is stored for a state. -/
def text (state : InstallState) : String :=
  Json.pretty state.toJson

/-- The state that a stored text records; the empty state when it records none. -/
def ofText (text : String) : InstallState :=
  ((Json.parse? text).bind ofJson?).getD empty

/-! ## The stored state -/

/-- The file of the state in a storage directory. -/
def file (storage : Path) : Path := storage.join "state.json"

/-- The file that a new state is written to first. -/
def draft (storage : Path) : Path := storage.join "state.json.tmp"

/-- The state that is stored. -/
def load (files : FileTree) (storage : Path) : InstallState :=
  match files.readText? (file storage) with
  | some text => ofText text
  | none => empty

/-- Makes the storage directory.  Returns the files afterwards, and the failed step. -/
def makeStorage (files : FileTree) (storage : Path) : FileTree × Option SaveError :=
  match (file storage).parent? with
  | none => (files, none)
  | some directory =>
    let (made, cause) := files.makeDirectories directory
    (made, cause.map fun _ => .creating directory)

/-- Stores a state.  Returns the files afterwards, and the step that failed if one did. -/
def save (state : InstallState) (files : FileTree) (storage : Path) :
    FileTree × Option SaveError :=
  match makeStorage files storage with
  | (made, some e) => (made, some e)
  | (made, none) =>
    match made.write (draft storage) (.text state.text) with
    | (written, some _) => (written, some (.writing (draft storage)))
    | (written, none) =>
      match written.rename (draft storage) (file storage) with
      | .error _ => (written, some (.replacing (file storage)))
      | .ok replaced => (replaced, none)

/-- Changes the stored state.  Returns the files afterwards, and the changed state or the step that
failed. -/
def update (change : InstallState → InstallState) (files : FileTree) (storage : Path) :
    FileTree × Except SaveError InstallState :=
  let state := change (load files storage)
  match state.save files storage with
  | (files, none) => (files, .ok state)
  | (files, some e) => (files, .error e)

end InstallState

end LanguageServer
