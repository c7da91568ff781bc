import LanguageServer.Source.Scrub
import LanguageServer.Text.Class

/-!
# The call around the cursor

Signature help needs to know which call the cursor stands in, and at which argument.  The answer is
found by going back from the cursor over the scrubbed text: a closing parenthesis enters a group
that is complete, an opening one leaves such a group or, when there is none, is the parenthesis of
the call; a comma outside complete groups passes one argument.

The function is what stands before that parenthesis, with blanks in between allowed: the longest run
of name parts, dots and attribute signs.  The run may be empty.
-/

namespace LanguageServer

open Text Source

/-- A call whose argument list is still open. -/
structure CallSite where
  /-- The called function as written. -/
  function : String
  /-- The number of complete arguments before the cursor. -/
  argument : Nat
deriving DecidableEq, Repr

namespace CallSite

/-- Goes back over a text, given last character first, in search of the parenthesis that opens the
call, with `depth` complete groups entered and `commas` arguments passed.  Returns the arguments
passed and the text before the parenthesis, last character first. -/
def goBack : Nat → Nat → List Char → Option (Nat × List Char)
  | _, _, [] => none
  | depth, commas, ')' :: cs => goBack (depth + 1) commas cs
  | 0, commas, '(' :: cs => some (commas, cs)
  | depth + 1, commas, '(' :: cs => goBack depth commas cs
  | 0, commas, ',' :: cs => goBack 0 (commas + 1) cs
  | depth, commas, _ :: cs => goBack depth commas cs

/-- The name of the called function, from the text before its parenthesis, last character first. -/
def callee (before : List Char) : List Char :=
  ((before.dropWhile isPlainBlank).takeWhile isLookupPart).reverse

/-- The call that is open at the end of the text. -/
def atEnd? (text : List Char) : Option CallSite :=
  (goBack 0 0 (scrub text).reverse).map fun (commas, before) =>
    ⟨String.ofList (callee before), commas⟩

/-- The call that is open at the byte offset.  An offset past the end of the text is read as the
end, one inside a character as the beginning of that character. -/
def locate? (text : String) (offset : Nat) : Option CallSite :=
  atEnd? (takeBytes offset text.toList)

/-- The parameter that the cursor stands at, for a function with the given number of parameters.
Arguments beyond the last parameter belong to the last one. -/
def activeParameter (site : CallSite) (parameters : Nat) : Nat :=
  min site.argument (parameters - 1)

end CallSite

end LanguageServer
