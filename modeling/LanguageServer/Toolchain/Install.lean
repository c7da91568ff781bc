import LanguageServer.Surroundings
import LanguageServer.Toolchain.State

/-!
# Installing a compiler

A toolchain finds the compiler: a configured one, or the one that it installed itself into its
storage directory.

`Toolchain.install` puts a release into the storage directory.  The release is looked up and its
asset downloaded in full before anything is written; both may be stopped.  The binary is then
written to a file beside its place, made executable and moved into place; if one of these steps
fails, that file is removed again.  Last the release is recorded as installed, and no release is
unwanted any more.
-/

namespace LanguageServer

/-- Why a release was not installed. -/
inductive InstallError where
  | unsupportedPlatform
  | noReleases
  | assetNotFound (asset version : String)
  /-- A request to the source of releases failed. -/
  | network (message : String)
  /-- The binary could not be written. -/
  | file (cause : FileError)
  /-- The installed release could not be recorded. -/
  | record (cause : SaveError)
  | cancelled
deriving DecidableEq, Repr

/-- The message for a failed installation. -/
def InstallError.message : InstallError → String
  | .unsupportedPlatform => "Your OS or Architecture is not supported by Aelys yet."
  | .noReleases => "No releases found on GitHub."
  | .assetNotFound asset version =>
    "Binary " ++ asset ++ " not found for version " ++ version ++ "."
  | .network message => message
  | .file cause => cause.message
  | .record cause => cause.message
  | .cancelled => "Installation cancelled."

/-- Where compilers are kept, and which one to use. -/
structure Toolchain where
  /-- The directory for the installed compiler. -/
  storage : Path
  /-- The compiler to use in place of the installed one. -/
  compiler : Option Path
  /-- The platform that releases are chosen for, if there are any for it. -/
  platform : Option Platform
deriving DecidableEq, Repr

namespace Toolchain

/-- The tag that stands for the newest release. -/
def latestTag : String := "latest"

/-- The path of the installed compiler. -/
def managed (toolchain : Toolchain) : Path :=
  toolchain.storage.join "aelys"

/-- The path that a compiler is written to before it takes its place. -/
def partialDownload (toolchain : Toolchain) : Path :=
  toolchain.storage.join "aelys.download"

/-- The path of the compiler to use. -/
def binary (toolchain : Toolchain) : Path :=
  toolchain.compiler.getD toolchain.managed

/-- Is the compiler to use there? -/
def hasBinary (toolchain : Toolchain) (files : FileTree) : Bool :=
  files.isFile toolchain.binary

/-- The recorded state of the installation. -/
def state (toolchain : Toolchain) (files : FileTree) : InstallState :=
  InstallState.load files toolchain.storage

/-! ## Looking up a release -/

/-- The release that a tag stands for. -/
def findRelease (feed : Feed) (tag asset : String) : Except InstallError Release :=
  if tag = latestTag then
    match feed.latest with
    | .error message => .error (.network message)
    | .ok none => .error .noReleases
    | .ok (some release) => .ok release
  else
    match feed.tagged tag with
    | .error message => .error (.network message)
    | .ok none => .error (.assetNotFound asset tag)
    | .ok (some release) => .ok release

/-- The request that looks up the release for a tag. -/
def lookup (tag : String) : Feed.Request :=
  if tag = latestTag then .latest else .tagged

/-- What is downloaded for a release. -/
def download (feed : Feed) (stops : Wait → Bool) (release : Release) (asset : String) :
    Except InstallError Content :=
  match release.asset? asset with
  | none => .error (.assetNotFound asset release.tag)
  | some asset =>
    if stops (.request .download) then .error .cancelled
    else match feed.download asset.url with
      | .error message => .error (.network message)
      | .ok content => .ok content

/-- The release that a tag stands for, and what is downloaded for it.  Each of the two requests is
given up when there is the wish to stop before it is answered. -/
def fetch (toolchain : Toolchain) (feed : Feed) (stops : Wait → Bool) (tag : String) :
    Except InstallError (Release × Content) :=
  match toolchain.platform with
  | none => .error .unsupportedPlatform
  | some platform =>
    if stops (.request (lookup tag)) then .error .cancelled
    else do
      let release ← findRelease feed tag platform.asset
      let content ← download feed stops release platform.asset
      return (release, content)

/-! ## Writing the binary -/

/-- The files without the partial download, if it can be removed. -/
def dropPartial (toolchain : Toolchain) (files : FileTree) : FileTree :=
  match files.remove toolchain.partialDownload with
  | .ok removed => removed
  | .error _ => files

/-- Writes an executable file. -/
def writeExecutable (files : FileTree) (path : Path) (content : Content) : FileTree.Attempt :=
  match files.write path content with
  | (written, some e) => (written, some e)
  | (written, none) =>
    match written.makeExecutable path with
    | .error e => (written, some e)
    | .ok executable => (executable, none)

/-- Puts the binary into its place.  Returns the files afterwards, and the cause if it failed. -/
def place (toolchain : Toolchain) (files : FileTree) (content : Content) : FileTree.Attempt :=
  match files.makeDirectories toolchain.storage with
  | (made, some e) => (made, some e)
  | (made, none) =>
    match writeExecutable made toolchain.partialDownload content with
    | (written, some e) => (toolchain.dropPartial written, some e)
    | (written, none) =>
      match written.rename toolchain.partialDownload toolchain.managed with
      | .error e => (toolchain.dropPartial written, some e)
      | .ok placed => (placed, none)

/-- The state after a release was installed. -/
def recordInstalled (tag : String) (_ : InstallState) : InstallState :=
  ⟨some tag, none⟩

/-- Installs the release that a tag stands for, and returns its own tag. -/
def install (toolchain : Toolchain) (tag : String) : Activity (Except InstallError String) :=
  modifyGet fun s =>
    match toolchain.fetch s.feed s.stops tag with
    | .error e => (.error e, { s with cancelled := s.cancelled || e == .cancelled })
    | .ok (release, content) =>
      let s := { s with downloads := s.downloads + 1 }
      match toolchain.place s.files content with
      | (files, some e) => (.error (.file e), { s with files })
      | (files, none) =>
        match InstallState.update (recordInstalled release.tag) files toolchain.storage with
        | (files, .error e) => (.error (.record e), { s with files })
        | (files, .ok _) => (.ok release.tag, { s with files })

end Toolchain

end LanguageServer
