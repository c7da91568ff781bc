import Mathlib.Tactic.Common
import LanguageServer.Toolchain.Compiler
import LanguageServer.Proofs.Text.Split
import LanguageServer.Proofs.Text.Utf8

/-!
# What a line for a terminal tells

The line that runs a script shows the compiler and the script between quotes, as they are: a quote
inside a path looks like those around it.  Between the two paths stands the separator, from the
quote that ends the first path to the quote that begins the second (`Compiler.separator`).  Where
the separator can be found in one place only, the line tells the texts of both paths; a path in turn
is told by its text where no replacement character stands for bytes that are no text.

`Compiler.runLine_tells_paths_iff` says that these conditions are also needed.  They hold for all
paths without quotes that are texts.
-/

namespace LanguageServer

open Text

/-- A path is told by its text if and only if no replacement stands in the text. -/
lemma Path.eq_of_text_eq_iff (path : Path) :
    (∀ other : Path, other.text = path.text → other = path) ↔
      replacement ∉ path.text.toList := by
  have htext (other : Path) : other.text = path.text ↔ decode other.bytes = decode path.bytes := by
    rw [← String.toList_inj, Path.text, Path.text, String.toList_ofList, String.toList_ofList]
  rw [Path.text, String.toList_ofList, ← eq_of_decode_eq_iff]
  constructor
  · intro h bytes hbytes
    exact congrArg Path.bytes (h ⟨bytes⟩ ((htext _).2 hbytes))
  · intro h other hother
    exact congrArg Path.mk (h other.bytes ((htext other).1 hother))

lemma Path.text_ofText (text : String) : (Path.ofText text).text = text := by
  rw [Path.text, Path.ofText, decode_encode, String.ofList_toList]

namespace Compiler

variable {windows : Bool} {arguments : String} {binary script binary' script' : Path}

/-- What stands between the two paths. -/
def separator (arguments : String) : List Char :=
  '"' :: (if trim arguments.toList = [] then [] else ' ' :: trim arguments.toList) ++ [' ', '"']

lemma toList_runLine : (runLine windows binary arguments script).toList =
    (callOperator windows).toList ++ '"' ::
      (binary.text.toList ++ separator arguments ++ script.text.toList ++ ['"']) := by
  have hquote : "\"".toList = ['"'] := by decide
  have hblank : " ".toList = [' '] := by decide
  simp only [runLine, inQuotes, separator, String.toList_append, hquote, hblank]
  split <;> simp [hblank]

lemma runLine_eq_iff :
    runLine windows binary arguments script = runLine windows binary' arguments script' ↔
      binary.text.toList ++ separator arguments ++ script.text.toList =
        binary'.text.toList ++ separator arguments ++ script'.text.toList := by
  rw [← String.toList_inj, toList_runLine, toList_runLine, List.append_cancel_left_eq,
    List.cons.injEq, List.append_cancel_right_eq]
  simp only [true_and]

/-- The separator stands between the two texts and nowhere else. -/
def SeparatesOnce (separator before after : List Char) : Prop :=
  ∀ before' after', before' ++ separator ++ after' = before ++ separator ++ after →
    before' = before

/-! ## Texts without quotes -/

lemma separator_eq_cons (arguments : String) : ∃ rest, separator arguments = '"' :: rest :=
  ⟨_, rfl⟩

lemma separator_eq_concat (arguments : String) : ∃ rest, separator arguments = rest ++ ['"'] := by
  unfold separator
  generalize (if trim arguments.toList = [] then [] else ' ' :: trim arguments.toList) = between
  exact ⟨'"' :: between ++ [' '], by simp⟩

lemma eq_of_quote_notMem_before {before after before' after' : List Char} (h : '"' ∉ before)
    (h' : '"' ∉ before')
    (heq : before' ++ separator arguments ++ after' = before ++ separator arguments ++ after) :
    before' = before := by
  obtain ⟨rest, hseparator⟩ := separator_eq_cons arguments
  rw [hseparator, List.append_assoc, List.append_assoc, List.cons_append, List.cons_append] at heq
  exact (separator_append_inj heq h' h).1

lemma eq_of_quote_notMem_after {before after before' after' : List Char} (h : '"' ∉ after)
    (h' : '"' ∉ after')
    (heq : before' ++ separator arguments ++ after' = before ++ separator arguments ++ after) :
    before' = before := by
  obtain ⟨rest, hseparator⟩ := separator_eq_concat arguments
  rw [hseparator, ← List.append_assoc, ← List.append_assoc, List.append_assoc _ ['"'],
    List.append_assoc _ ['"']] at heq
  exact List.append_cancel_right (append_separator_inj heq h' h).1

/-- All quotes are those of the separator. -/
lemma separatesOnce_of_quote_notMem {before after : List Char} (h : '"' ∉ before)
    (h' : '"' ∉ after) : SeparatesOnce (separator arguments) before after := by
  intro other rest heq
  refine eq_of_quote_notMem_before h ?_ heq
  have hquotes := congrArg (List.count '"') heq
  simp only [List.count_append, List.count_eq_zero.2 h, List.count_eq_zero.2 h'] at hquotes
  exact List.count_eq_zero.1 (by omega)

/-! ## The paths of a line -/

lemma texts_eq_of_runLine_eq
    (hbefore : binary'.text.toList = binary.text.toList)
    (h : runLine windows binary' arguments script' = runLine windows binary arguments script) :
    binary'.text = binary.text ∧ script'.text = script.text := by
  rw [runLine_eq_iff, hbefore, List.append_cancel_left_eq] at h
  exact ⟨String.toList_inj.1 hbefore, String.toList_inj.1 h⟩

/-- **When a line tells its paths.**  The line for a compiler and a script belongs to no other two
paths if and only if both are texts and what stands between them is found in one place only.  This
is so when neither holds a quote.  Moreover two lines that are equal show the same texts, if both
compilers, or both scripts, hold no quote. -/
theorem runLine_tells_paths_iff (windows : Bool) (arguments : String) (binary script : Path) :
    ((∀ binary' script',
          runLine windows binary' arguments script' = runLine windows binary arguments script →
            binary' = binary ∧ script' = script) ↔
        replacement ∉ binary.text.toList ∧ replacement ∉ script.text.toList ∧
          SeparatesOnce (separator arguments) binary.text.toList script.text.toList) ∧
      ('"' ∉ binary.text.toList → '"' ∉ script.text.toList →
        SeparatesOnce (separator arguments) binary.text.toList script.text.toList) ∧
      ∀ binary' script',
        runLine windows binary' arguments script' = runLine windows binary arguments script →
          ('"' ∉ binary.text.toList ∧ '"' ∉ binary'.text.toList) ∨
              ('"' ∉ script.text.toList ∧ '"' ∉ script'.text.toList) →
            binary'.text = binary.text ∧ script'.text = script.text := by
  refine ⟨⟨fun h => ⟨?_, ?_, ?_⟩, fun ⟨hbinary, hscript, honce⟩ binary' script' hline => ?_⟩,
    separatesOnce_of_quote_notMem, fun binary' script' hline hquotes => ?_⟩
  · refine (Path.eq_of_text_eq_iff binary).1 fun other hother => (h other script ?_).1
    rw [runLine_eq_iff, hother]
  · refine (Path.eq_of_text_eq_iff script).1 fun other hother => (h binary other ?_).2
    rw [runLine_eq_iff, hother]
  · intro before after heq
    have hpaths := h (.ofText (String.ofList before)) (.ofText (String.ofList after))
    rw [runLine_eq_iff, Path.text_ofText, Path.text_ofText, String.toList_ofList,
      String.toList_ofList] at hpaths
    rw [← (hpaths heq).1, Path.text_ofText, String.toList_ofList]
  · obtain ⟨hfirst, hsecond⟩ := texts_eq_of_runLine_eq (honce _ _ (runLine_eq_iff.1 hline)) hline
    exact ⟨(Path.eq_of_text_eq_iff binary).2 hbinary binary' hfirst,
      (Path.eq_of_text_eq_iff script).2 hscript script' hsecond⟩
  · refine texts_eq_of_runLine_eq ?_ hline
    rw [runLine_eq_iff] at hline
    rcases hquotes with ⟨h, h'⟩ | ⟨h, h'⟩
    · exact eq_of_quote_notMem_before h h' hline
    · exact eq_of_quote_notMem_after h h' hline

/-- Blanks in the paths, and quotes in the arguments. -/
theorem runLine_tells_paths_iff_blanks : ∀ binary' script',
    runLine true binary' " -x \" \" " script' =
        runLine true (.ofText "/my tools/aelys") " -x \" \" " (.ofText "/w/a b.ae") →
      binary' = .ofText "/my tools/aelys" ∧ script' = .ofText "/w/a b.ae" := by
  obtain ⟨htells, honce, -⟩ := runLine_tells_paths_iff true " -x \" \" "
    (.ofText "/my tools/aelys") (.ofText "/w/a b.ae")
  rw [htells]
  rw [Path.text_ofText, Path.text_ofText] at honce ⊢
  exact ⟨by decide, by decide, honce (by decide) (by decide)⟩

/-- **A line may belong to several pairs of paths**: a quote inside a path ends it. -/
theorem runLine_may_not_tell_paths :
    ∃ binary script binary' script', binary ≠ binary' ∧
      runLine false binary "" script = runLine false binary' "" script' :=
  ⟨.ofText "a\" \"b", .ofText "c", .ofText "a", .ofText "b\" \"c", by decide, by decide +kernel⟩

end Compiler

end LanguageServer
