import Mathlib.Data.List.Induction
import LanguageServer.Proofs.Source.Scrub
import LanguageServer.Proofs.Source.Symbol

/-!
# The comments that document a function

The documentation of a function is looked for upwards from its line: comments are taken, lines with
no text are passed, and any other line ends the search (`Symbol.commentRun`).  The same comments are
found downwards from the beginning of the text, without knowing where the search would end, if
everything that was collected is given up at every line of code (`Symbol.collect`).  The two agree
because a line does to the end of the collection what it does to the beginning of the search
(`Symbol.reverse_commentRun`).

What stands at or above a line of code is therefore forgotten (`Symbol.foldl_collect_of_isCode`),
and a function below it is documented by the comments between the two, or by the sentence for its
visibility when they have no text (`Symbol.documentation_of_comments_above`).
-/

namespace LanguageServer.Symbol

open Text Source

/-! ## Collecting comments downwards -/

/-- Does the line begin with two slashes, apart from blanks? -/
def isComment (line : List Char) : Bool :=
  ['/', '/'].isPrefixOf (trim line)

/-- Is the line neither blank nor a comment? -/
def isCode (line : List Char) : Bool :=
  !isBlankText line && !isComment line

/-- What a comment says: the line without blanks at its ends, without all the slashes that it begins
with, and without the blanks at the ends of the rest. -/
def commentText (line : List Char) : List Char :=
  trim ((trim line).dropWhile (· == '/'))

/-- What is collected after one more line. -/
def collect (collected : List (List Char)) (line : List Char) : List (List Char) :=
  if isBlankText line then collected
  else if isComment line then collected ++ [commentText line]
  else []

/-- The documentation that the collected comments make up for a function. -/
def documented (visibility : Visibility) (collected : List (List Char)) : String :=
  let doc := trim (joinWith ['\n'] collected)
  if doc = [] then visibility.sentence else String.ofList doc

lemma documented_ne_empty (visibility : Visibility) (collected : List (List Char)) :
    documented visibility collected ≠ "" := by
  rw [documented]
  split
  · cases visibility <;> decide
  · rename_i hne
    exact fun hempty => hne (String.ofList_eq_empty_iff.mp hempty)

lemma collect_of_isCode {line : List Char} (h : isCode line = true)
    (collected : List (List Char)) : collect collected line = [] := by
  rw [isCode, Bool.and_eq_true, Bool.not_eq_true', Bool.not_eq_true'] at h
  rw [collect, h.1, h.2]
  rfl

lemma foldl_collect_of_isCode {code : List Char} (h : isCode code = true)
    (front run : List (List Char)) :
    (front ++ code :: run).foldl collect [] = run.foldl collect [] := by
  rw [List.foldl_append, List.foldl_cons, collect_of_isCode h]

/-! ## The two directions -/

/-- **A line of the search**: blanks are passed, a comment comes next, and code ends it. -/
lemma commentRun_cons (line : List Char) (above : List (List Char)) :
    commentRun (line :: above) =
      if isBlankText line then commentRun above
      else if isComment line then commentText line :: commentRun above
      else [] := by
  rw [commentRun]
  simp only [trim_eq_nil_iff]
  split
  · rfl
  · cases hstrip : strip? ['/', '/'] (trim line) with
    | some comment =>
      have hline := strip?_eq_some_iff.mp hstrip
      have hcomment : isComment line = true := by
        rw [isComment, hline]
        exact List.isPrefixOf_iff_prefix.mpr (List.prefix_append _ _)
      have htext : commentText line = trim (comment.dropWhile (· == '/')) := by
        rw [commentText, hline]
        rfl
      simp only [hcomment, htext, if_true]
    | none =>
      have hcode : ¬ isComment line = true := by
        rw [isComment, List.isPrefixOf_iff_prefix]
        rintro ⟨comment, hline⟩
        rw [strip?_eq_some_iff.mpr hline.symm] at hstrip
        cases hstrip
      rw [if_neg hcode]

/-- **The comments found upwards are those collected downwards**, in the other order. -/
lemma reverse_commentRun (ls : List (List Char)) :
    (commentRun ls.reverse).reverse = ls.foldl collect [] := by
  induction ls using List.reverseRecOn with
  | nil => rfl
  | append_singleton ls line ih =>
    rw [List.reverse_append, List.reverse_singleton, List.singleton_append, commentRun_cons,
      List.foldl_append, List.foldl_cons, List.foldl_nil, ← ih, collect]
    split
    · rfl
    · split
      · rw [List.reverse_cons]
      · rfl

lemma documentation?_getD (ls : List (List Char)) (line : Nat) (visibility : Visibility) :
    (documentation? ls line).getD visibility.sentence =
      documented visibility ((ls.take line).foldl collect []) := by
  rw [documentation?, reverse_commentRun, documented]
  split
  · rfl
  · rfl

/-! ## Symbols -/

variable {text : String} {qualifier : Option String} {scope : Scope} {symbol : Symbol}

lemma line_lt_length_lines (h : symbol ∈ scan text qualifier scope) :
    symbol.location.line < (lines text.toList).length := by
  obtain ⟨found, input, rest, htext, -, hspells, -, rfl⟩ := spells_of_mem_scan h
  obtain ⟨lead, gap, blanks, hinput, -⟩ := hspells.pieces
  have hne : input ≠ [] := by
    rw [hinput]
    simp
  have hfeeds := (masks_scrub text.toList).lineFeeds_takeBytes (byteLength found.before)
  rw [htext, takeBytes_byteLength_append] at hfeeds
  have hlt := lineFeeds_lt_length_lines found.before hne
  rwa [← htext, lines_scrub, List.length_map, hfeeds] at hlt

/-- **A function is documented by the comments right above it.**  For every symbol of a text:

* the lines above it are lines of the text, and its documentation is what the pass over these lines
  from the first to the last has collected in the end, or the sentence for its visibility when that
  has no text;
* behind any line of code above it, the lines that follow that one decide alone;
* it is never empty. -/
theorem documentation_of_comments_above (h : symbol ∈ scan text qualifier scope) :
    let above := (lines text.toList).take symbol.location.line
    above.length = symbol.location.line ∧
    symbol.documentation = documented symbol.visibility (above.foldl collect []) ∧
    (∀ front code run, above = front ++ code :: run → isCode code = true →
      symbol.documentation = documented symbol.visibility (run.foldl collect [])) ∧
    symbol.documentation ≠ "" := by
  intro above
  have hdocumentation :
      symbol.documentation = documented symbol.visibility (above.foldl collect []) := by
    obtain ⟨found, _, _, -, -, -, -, hsymbol⟩ := spells_of_mem_scan h
    simp only [above, hsymbol, ofFound, documentation?_getD]
  refine ⟨?_, hdocumentation, fun front code run habove hcode => ?_, ?_⟩
  · rw [List.length_take, Nat.min_eq_left (Nat.le_of_lt (line_lt_length_lines h))]
  · rw [hdocumentation, habove, foldl_collect_of_isCode hcode]
  · rw [hdocumentation]
    exact documented_ne_empty _ _

/-- The comment above the line of code is left out, and the one without text leaves a line. -/
theorem documentation_of_comments_above_near :
    let text := "// far\nlet y\n/// One\n\n//\n //two /\n\npub fn g() \x7b\x7d"
    let symbol : Symbol := ⟨"g", "g", "", "One\n\ntwo /", .exported, ⟨none, 7⟩⟩
    let code := "let y".toList
    let near := ["/// One", "", "//", " //two /", ""].map String.toList
    symbol ∈ scan text none .current ∧
      (lines text.toList).take symbol.location.line = ["// far".toList] ++ code :: near ∧
      isCode code = true ∧
      symbol.documentation = documented symbol.visibility (near.foldl collect []) := by
  intro text symbol code near
  have hmem : symbol ∈ scan text none .current := by decide +kernel
  have habove : (lines text.toList).take symbol.location.line =
      ["// far".toList] ++ code :: near := by decide +kernel
  have hcode : isCode code = true := by decide +kernel
  obtain ⟨-, -, hbelow, -⟩ := documentation_of_comments_above hmem
  exact ⟨hmem, habove, hcode, hbelow _ _ _ habove hcode⟩

end LanguageServer.Symbol
