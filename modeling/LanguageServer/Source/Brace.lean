/-!
# Braces that reach beyond their line

The outline of a script follows its braces from line to line.  A block that opens and closes on one
line does not change the nesting of the lines after it, so such blocks are taken out first.

`dropInnermost` takes out every block that holds no braces; `dropBlocks` repeats that until nothing
changes.  Each round that changes the line makes it shorter (`dropInnermost_shorter`), so there is
an end to it.  What remains is a line on which no brace opens before another one closes.
-/

namespace LanguageServer.Source

/-- The rest of a line without its blocks that hold no braces.  `held` is the text since the last
opening brace, that brace included and last character first, as long as it may turn out to be such
a block. -/
def dropInnermostFrom : List Char → List Char → List Char
  | held, [] => held.reverse
  | held, '{' :: cs => held.reverse ++ dropInnermostFrom ['{'] cs
  | [], c :: cs => c :: dropInnermostFrom [] cs
  | _ :: _, '}' :: cs => dropInnermostFrom [] cs
  | h :: held, c :: cs => dropInnermostFrom (c :: h :: held) cs

/-- The line without its blocks that hold no braces. -/
def dropInnermost (line : List Char) : List Char :=
  dropInnermostFrom [] line

/-- A scan either changes nothing or makes the text shorter. -/
theorem dropInnermostFrom_eq_or_shorter (held cs : List Char) :
    dropInnermostFrom held cs = held.reverse ++ cs ∨
      (dropInnermostFrom held cs).length < held.length + cs.length := by
  fun_induction dropInnermostFrom held cs with
  | case1 held => simp
  | case2 held cs ih =>
    rcases ih with h | h
    · left; simp [h]
    · right; simp at h ⊢; omega
  | case3 c cs _ ih =>
    rcases ih with h | h
    · left; simp [h]
    · right; simp at h ⊢; omega
  | case4 h held cs ih =>
    right
    rcases ih with e | e
    · simp [e]; omega
    · simp at e ⊢; omega
  | case5 h held c cs _ _ ih =>
    rcases ih with e | e
    · left; simp [e]
    · right; simp at e ⊢; omega

/-- A round that changes the line makes it shorter. -/
theorem dropInnermost_shorter {line : List Char} (changed : dropInnermost line ≠ line) :
    (dropInnermost line).length < line.length := by
  rcases dropInnermostFrom_eq_or_shorter [] line with h | h
  · exact absurd (by simpa [dropInnermost] using h) changed
  · simpa [dropInnermost] using h

/-- The line without the blocks that open and close on it. -/
def dropBlocks (line : List Char) : List Char :=
  if dropInnermost line = line then line else dropBlocks (dropInnermost line)
termination_by line.length
decreasing_by exact dropInnermost_shorter ‹_›

end LanguageServer.Source
