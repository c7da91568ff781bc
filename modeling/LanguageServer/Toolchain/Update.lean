import LanguageServer.Toolchain.Install

/-!
# Keeping the compiler installed and up to date

These are the conversations with the user around an installation: installing with a report of the
progress and the result, offering an installation when the compiler is missing, and offering a newer
release.  The status item tells which compiler is in use.
-/

namespace LanguageServer.Toolchain

open Activity

/-! ## Answers that are acted upon -/

def installLatest : String := "Install Latest"
def installNow : String := "Install Now"
def updateNow : String := "Update Now"
def later : String := "Later"

/-! ## Conversations -/

/-- The text of the status item. -/
def statusText (toolchain : Toolchain) (files : FileTree) : String :=
  if toolchain.compiler.isSome then "Aelys (custom)"
  else match (toolchain.state files).installed with
    | some tag => "Aelys " ++ tag
    | none => "Aelys: not installed"

/-- Brings the status item up to date. -/
def refreshStatus (toolchain : Toolchain) : Activity Unit := do
  let text := toolchain.statusText (← get).files
  withEditor (·.setStatus text)

/-- Tells the user how an installation ended.  Returns the installed tag. -/
def announce (toolchain : Toolchain) : Except InstallError String → Activity (Option String)
  | .ok tag => do
    tell (.info ("Aelys " ++ tag ++ " installed successfully!"))
    toolchain.refreshStatus
    return some tag
  | .error .cancelled => return none
  | .error e => do
    tell (.error ("Failed to install Aelys: " ++ e.message))
    return none

/-- Installs a release under the eyes of the user.  Returns the installed tag. -/
def installWithProgress (toolchain : Toolchain) (tag : String) : Activity (Option String) := do
  let work ← beginWork ("Aelys: Installing " ++ tag ++ "...")
  tell (.progressReport work ("Downloading " ++ tag ++ "..."))
  let result ← toolchain.install tag
  tell (.progressEnd work)
  toolchain.announce result

/-- The path of a compiler that is there.  When there is none the user is offered an
installation. -/
def ensureBinary (toolchain : Toolchain) : Activity (Option Path) := do
  if toolchain.hasBinary (← get).files then
    return some toolchain.binary
  let reply ← ask (.prompt "Aelys executable not found." [installNow])
  if reply.choice ≠ some installNow then
    return none
  match ← toolchain.installWithProgress latestTag with
  | none => return none
  | some _ =>
    if toolchain.hasBinary (← get).files then
      return some toolchain.binary
    else
      return none

/-- Is there nothing to say about the release: is it installed, or unwanted? -/
def settled (state : InstallState) (tag : String) : Bool :=
  state.installed == some tag || state.ignored == some tag

/-- The state after the user put off a release. -/
def recordIgnored (tag : String) (state : InstallState) : InstallState :=
  { state with ignored := some tag }

/-- Offers a release that is newer than the installed one. -/
def offerUpdate (toolchain : Toolchain) (tag : String) : Activity Unit := do
  let reply ← ask
    (.prompt ("A new version of Aelys is available (" ++ tag ++ ").") [updateNow, later])
  if reply.choice = some updateNow then
    let _ ← toolchain.installWithProgress tag
  else if reply.choice = some later then
    modify fun s =>
      { s with files := (InstallState.update (recordIgnored tag) s.files toolchain.storage).1 }

/-- Offers an installation when the compiler is missing. -/
def offerInstall (toolchain : Toolchain) : Activity Unit := do
  let reply ← ask
    (.prompt "Aelys executable is missing. Download it to run scripts?" [installLatest])
  if reply.choice = some installLatest then
    let _ ← toolchain.installWithProgress latestTag

/-- Offers an installation or a newer release where there is a reason to.  A configured compiler is
left alone, and a release list that cannot be had is no reason. -/
def checkForUpdate (toolchain : Toolchain) : Activity Unit := do
  if toolchain.compiler.isSome then
    return
  if !toolchain.hasBinary (← get).files then
    toolchain.offerInstall
    return
  match (← get).feed.latest with
  | .ok (some release) =>
    if !settled (toolchain.state (← get).files) release.tag then
      toolchain.offerUpdate release.tag
  | _ => return

end LanguageServer.Toolchain
