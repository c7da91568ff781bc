import LanguageServer.Json.Reader

/-!
# Releases of the compiler

A release has a tag and, for every platform it was built for, an asset to download.  Releases are
described by JSON records; a description without a tag, or with a member of the wrong type, is
refused.
-/

namespace LanguageServer

/-! ## Platforms -/

/-- A platform that the compiler is built for. -/
inductive Platform where
  | windowsX64
  | macosArm64
  | macosX64
  | linuxX64
deriving DecidableEq, Repr

namespace Platform

/-- The platform of an operating system and a processor. -/
def ofHost? (system processor : String) : Option Platform :=
  match system, processor with
  | "windows", "x86_64" => some .windowsX64
  | "macos", "aarch64" => some .macosArm64
  | "macos", "x86_64" => some .macosX64
  | "linux", "x86_64" => some .linuxX64
  | _, _ => none

/-- The name of the asset for the platform. -/
def asset : Platform → String
  | .windowsX64 => "aelys-x86_64-pc-windows-msvc.exe"
  | .macosArm64 => "aelys-aarch64-apple-darwin"
  | .macosX64 => "aelys-x86_64-apple-darwin"
  | .linuxX64 => "aelys-x86_64-unknown-linux-gnu"

end Platform

/-! ## Releases -/

/-- A file that belongs to a release. -/
structure Asset where
  name : String
  url : String
deriving DecidableEq, Repr

/-- A release of the compiler. -/
structure Release where
  tag : String
  title : Option String
  /-- Date and time of publication. -/
  published : Option String
  isPreview : Bool
  assets : List Asset
deriving DecidableEq, Repr

namespace Release

/-- The first asset with the name. -/
def asset? (release : Release) (name : String) : Option Asset :=
  release.assets.find? (·.name == name)

/-- The day of publication, as far as it is known. -/
def day (release : Release) : String :=
  match release.published with
  | some time => String.ofList (time.toList.takeWhile (· != 'T'))
  | none => "unknown date"

/-- The release in one line. -/
def describe (release : Release) : String :=
  release.tag ++ " (" ++ release.day ++ (if release.isPreview then ", pre-release" else "") ++ ")"

/-! ## Descriptions in JSON -/

/-- Reads an asset. -/
def assetOfJson? (value : Json) : Option Asset := do
  match ← value.record? ["name", "browser_download_url"] with
  | [some (.text name), some (.text url)] => some ⟨name, url⟩
  | _ => none

/-- Reads the assets of a release, which may be left out. -/
def assetsOfJson? : Option Json → Option (List Asset)
  | none => some []
  | some (.array items) => items.mapM assetOfJson?
  | some _ => none

/-- Reads the mark of a preview, which may be left out. -/
def previewOfJson? : Option Json → Option Bool
  | none => some false
  | some value => value.bool?

/-- Reads a release. -/
def ofJson? (value : Json) : Option Release := do
  match ← value.record? ["tag_name", "name", "published_at", "prerelease", "assets"] with
  | [some (.text tag), title, published, preview, assets] =>
    some
      { tag
        title := ← Json.optionalText? title
        published := ← Json.optionalText? published
        isPreview := ← previewOfJson? preview
        assets := ← assetsOfJson? assets }
  | _ => none

/-- Reads a list of releases. -/
def listOfJson? (value : Json) : Option (List Release) :=
  value.items?.bind (·.mapM ofJson?)

/-- Reads a release from JSON text. -/
def parse? (text : String) : Option Release :=
  (Json.parse? text).bind ofJson?

end Release

end LanguageServer
