import LanguageServer.Address.Parser
import LanguageServer.File.Path

/-!
# Addresses of files

An address with a path in segments and no foreign host names a file (`Address.path?`), whatever its
scheme; an absolute path has an address in turn (`Address.ofPath?`).  The path of a file consists of
bytes, so it need not be text: what is percent-encoded in the address is a byte of the path.
-/

namespace LanguageServer.Address

open Text

/-- Does the path end, after at least one byte, with the name of a drive? -/
def endsWithDrive (bytes : List UInt8) : Bool :=
  2 < bytes.length &&
    isDrive ((bytes.drop (bytes.length - 2)).map fun b => Char.ofNat b.toNat)

/-- The path of the file that the address names. -/
def path? (address : Address) : Option Path :=
  match address.path with
  | .plain _ => none
  | .segments parts =>
    if (address.authority.bind (·.host)).all Host.isLocal then
      let bytes := parts.flatMap fun part => Path.slash :: percentDecode part.toList
      some ⟨if endsWithDrive bytes then bytes ++ [Path.slash] else bytes⟩
    else none

/-- The address of the file at an absolute path. -/
def ofPath? (path : Path) : Option Address :=
  if path.isAbsolute then
    let parts := path.components.filterMap fun
      | .name name => some (String.ofList (percentEncodeBytes segmentSet name))
      | .up => some ".."
      | _ => none
    some
      { scheme := "file", authority := some ⟨"", none, none⟩
        path := .segments (if parts = [] then [""] else parts)
        query := none, fragment := none }
  else none

end LanguageServer.Address
