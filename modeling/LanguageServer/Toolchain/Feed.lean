import LanguageServer.File.Tree
import LanguageServer.Toolchain.Release

/-!
# Where releases come from

A feed lists the releases of the compiler and hands out their assets.  Every request to it may fail,
with a message.

A listed feed answers from a list of releases, the newest first.  It is told which of its requests
fail.
-/

namespace LanguageServer

/-- A source of releases.  A failed request is described by a message. -/
structure Feed where
  /-- All releases. -/
  all : Except String (List Release)
  /-- The newest release, if there is one. -/
  latest : Except String (Option Release)
  /-- The release with a tag, if there is one. -/
  tagged : String → Except String (Option Release)
  /-- What an address leads to. -/
  download : String → Except String Content

namespace Feed

/-- A request to a feed. -/
inductive Request where
  | all
  | latest
  | tagged
  | download
deriving DecidableEq, Repr

/-- A feed that answers from a list, except for the requests that fail with a message. -/
def ofList (releases : List Release) (asset : String → Content)
    (failure : Request → Option String) : Feed where
  all := match failure .all with
    | some message => .error message
    | none => .ok releases
  latest := match failure .latest with
    | some message => .error message
    | none => .ok releases.head?
  tagged tag := match failure .tagged with
    | some message => .error message
    | none => .ok (releases.find? (·.tag == tag))
  download url := match failure .download with
    | some message => .error message
    | none => .ok (asset url)

end Feed

end LanguageServer
