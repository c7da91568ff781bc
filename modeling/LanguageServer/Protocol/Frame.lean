import LanguageServer.Json.Printer
import LanguageServer.Text.Class
import LanguageServer.Text.Measure

/-!
# Frames

On a stream of bytes a message is preceded by header lines, one of which tells its length in bytes,
and by an empty line.  The other header lines do not matter.
-/

namespace LanguageServer.Frame

open Text

/-- The header line that tells the length of a message. -/
def lengthName : String := "content-length"

/-- A message with its header. -/
def render (message : Json) : String :=
  let text := message.render
  "Content-Length: " ++ toString (byteLength text.toList) ++ "\r\n\r\n" ++ text

/-- The value of a header line with the given name, which is compared without regard to case. -/
def headerValue? (name line : String) : Option String :=
  let cs := line.toList
  if String.ofList ((trim (cs.takeWhile (· != ':'))).map Char.toLower) = name then
    some (String.ofList (trim ((cs.dropWhile (· != ':')).drop 1)))
  else none

/-- The number that a text of digits denotes. -/
def digits? (text : String) : Option Nat :=
  let cs := text.toList
  if cs ≠ [] && cs.all (·.isDigit) then
    some (cs.foldl (fun n c => 10 * n + (c.toNat - '0'.toNat)) 0)
  else none

/-- The length that header lines tell. -/
def contentLength? (lines : List String) : Option Nat :=
  (lines.findSome? (headerValue? lengthName)).bind digits?

end LanguageServer.Frame
