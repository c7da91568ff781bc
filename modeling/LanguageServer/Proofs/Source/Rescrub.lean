import LanguageServer.Proofs.Source.Scrub
import LanguageServer.Proofs.Text.Bytes

/-!
# Scrubbed text scrubbed again

What scrubbing leaves of a line holds the quotes of its literals with spaces between them, perhaps
spaces in place of a comment, or a quote with the rest of the line as it was.  A scan of the
scrubbed line meets the same quotes and comes to the same decisions, so that nothing is left to
blank (`scrubLine_scrubLine`).

A text is scrubbed line by line, and the ends of its lines stay where they are, a carriage return
before a line feed included.  Hence its scrubbed form has the same lines to scrub again
(`scrub_scrub`).
-/

namespace LanguageServer.Source

open Text

/-! ## Lines -/

lemma closes_spaces (n : Nat) (cs : List Char) :
    closes (List.replicate n ' ' ++ cs) = closes cs := by
  induction n with
  | zero => rfl
  | succ n ih =>
    rw [List.replicate_succ, List.cons_append, closes, ih]
    · rfl
    · exact fun _ _ hspace => by simp at hspace

lemma scrubFrom_literal_spaces (n : Nat) (cs : List Char) :
    scrubFrom .literal (List.replicate n ' ' ++ cs) =
      List.replicate n ' ' ++ scrubFrom .literal cs := by
  induction n with
  | zero => rfl
  | succ n ih =>
    rw [List.replicate_succ, List.cons_append, scrubFrom, ih]
    · rfl
    · simp
    · simp

lemma scrubFrom_code_spaces (n : Nat) :
    scrubFrom .code (List.replicate n ' ') = List.replicate n ' ' :=
  scrubLine_plain (fun h => by simp [List.mem_replicate] at h)
    (fun h => by simp [List.mem_replicate] at h)

lemma closes_scrubFrom {cs : List Char} (h : closes cs = true) :
    closes (scrubFrom .literal cs) = true := by
  fun_induction closes cs with
  | case1 => cases h
  | case2 c cs ih => rw [scrubFrom, blanked, closes_spaces, ih h]
  | case3 c cs hlone ih =>
    by_cases hquote : c = '"'
    · subst hquote
      rw [scrubFrom, closes]
      · simp
      · simp
    · rw [scrubFrom, blanked, closes_spaces, ih (by simpa [hquote] using h)]
      · exact hquote
      · exact hlone

/-- No slash comes to stand at the front of code. -/
lemma head?_of_head?_scrubFrom {cs : List Char}
    (h : (scrubFrom .code cs).head? = some '/') : cs.head? = some '/' := by
  generalize hregion : Region.code = region at h
  fun_cases scrubFrom region cs with
  | case1 => exact h
  | case2 cs => rfl
  | case3 cs hcloses => simp [scrubFrom, hcloses] at h
  | case4 cs hcloses => simp [scrubFrom, hcloses] at h
  | case5 c cs hcomment hquote =>
    rw [scrubFrom, List.head?_cons] at h
    · exact h
    · exact hcomment
    · exact hquote
  | case6 cs => cases hregion
  | case7 c cs => cases hregion
  | case8 c cs => cases hregion

lemma scrubFrom_scrubFrom (region : Region) (cs : List Char) :
    scrubFrom region (scrubFrom region cs) = scrubFrom region cs := by
  fun_induction scrubFrom region cs with
  | case1 region => rw [scrubFrom]
  | case2 cs => exact scrubFrom_code_spaces _
  | case3 cs hcloses ih => rw [scrubFrom, if_pos (closes_scrubFrom hcloses), ih]
  | case4 cs hcloses => rw [scrubFrom, if_neg hcloses]
  | case5 c cs hcomment hquote ih =>
    rw [scrubFrom, ih]
    · rintro rest rfl hrest
      obtain ⟨ds, rfl⟩ := List.head?_eq_some_iff.mp
        (head?_of_head?_scrubFrom (by rw [hrest, List.head?_cons]))
      exact hcomment ds rfl rfl
    · exact hquote
  | case6 cs ih => rw [scrubFrom, ih]
  | case7 c cs ih => rw [blanked, scrubFrom_literal_spaces, ih]
  | case8 c cs hquote hescape ih => rw [blanked, scrubFrom_literal_spaces, ih]

lemma scrubLine_scrubLine (line : List Char) : scrubLine (scrubLine line) = scrubLine line :=
  scrubFrom_scrubFrom .code line

/-! ## Texts -/

lemma scrub_scrub (text : List Char) : scrub (scrub text) = scrub text := by
  induction text using lineInduction with
  | nil => rfl
  | unended line hline hne =>
    have hscrubbed := lineFeed_notMem_scrubLine hline
    rw [scrub_unended hline hne, scrub_unended hscrubbed (scrubLine_ne_nil hline hne),
      scrubLine_scrubLine]
  | feed line text hline hreturn ih =>
    have hscrubbed := lineFeed_notMem_scrubLine hline
    rw [scrub_feed hline hreturn, scrub_feed hscrubbed (getLast?_scrubLine_ne hline hreturn),
      scrubLine_scrubLine, ih]
  | returnFeed line text hline ih =>
    have hscrubbed := lineFeed_notMem_scrubLine hline
    rw [scrub_returnFeed hline, scrub_returnFeed hscrubbed, scrubLine_scrubLine, ih]

/-! ## Line feeds -/

/-- A byte stands at the same places of two joined pieces if it does so in each of them. -/
lemma getElem?_append_iff {front front' back back' : List UInt8} {b : UInt8}
    (hlength : front.length = front'.length)
    (hfront : ∀ i : Nat, front[i]? = some b ↔ front'[i]? = some b)
    (hback : ∀ i : Nat, back[i]? = some b ↔ back'[i]? = some b) (i : Nat) :
    (front ++ back)[i]? = some b ↔ (front' ++ back')[i]? = some b := by
  by_cases hi : i < front.length
  · rw [List.getElem?_append_left hi, List.getElem?_append_left (hlength ▸ hi)]
    exact hfront i
  · have hle := Nat.le_of_not_lt hi
    rw [List.getElem?_append_right hle, List.getElem?_append_right (hlength ▸ hle), hlength]
    exact hback _

/-- Line feeds stay at their places among the bytes, and none is added. -/
lemma Masks.getElem?_encode_lineFeed {cs ds : List Char} (h : Masks cs ds) (i : Nat) :
    (encode ds)[i]? = some '\n'.toUInt8 ↔ (encode cs)[i]? = some '\n'.toUInt8 := by
  have hnone {bytes : List UInt8} (hfree : '\n'.toUInt8 ∉ bytes) (i : Nat) :
      ¬ bytes[i]? = some '\n'.toUInt8 :=
    fun h => hfree (List.mem_of_getElem? h)
  induction h generalizing i with
  | nil => exact Iff.rfl
  | keep c _ ih =>
    rw [encode_cons, encode_cons]
    exact getElem?_append_iff rfl (fun _ => Iff.rfl) ih i
  | @blank c cs ds hc _ ih =>
    have hblank : '\n'.toUInt8 ∉ encode (Source.blanked [c]) := by
      rw [encode, List.mem_flatMap]
      rintro ⟨d, hd, hmem⟩
      rw [List.eq_of_mem_replicate hd] at hmem
      revert hmem
      decide
    have hchar : '\n'.toUInt8 ∉ String.utf8EncodeChar c := fun hmem =>
      hc ((toUInt8_mem_utf8EncodeChar_iff (by decide)).mp hmem)
    rw [encode_append, encode_cons]
    refine getElem?_append_iff ?_ (fun j => iff_of_false (hnone hblank j) (hnone hchar j)) ih i
    rw [length_encode, byteLength_blanked, String.length_utf8EncodeChar]
    rfl

/-- Scrubbing a text scrubs its lines and leaves their ends in place, and what is scrubbed stays as
it is when it is scrubbed again. -/
theorem scrub_lines_and_scrub_scrub (text : List Char) :
    (encode (scrub text)).length = (encode text).length ∧
    (∀ i : Nat, (encode (scrub text))[i]? = some '\n'.toUInt8 ↔
      (encode text)[i]? = some '\n'.toUInt8) ∧
    lines (scrub text) = (lines text).map scrubLine ∧
    scrub (scrub text) = scrub text ∧
    ∀ line, scrubLine (scrubLine line) = scrubLine line := by
  have hmasks := masks_scrub text
  refine ⟨?_, hmasks.getElem?_encode_lineFeed, lines_scrub text, scrub_scrub text,
    scrubLine_scrubLine⟩
  rw [length_encode, length_encode, hmasks.byteLength_eq]

end LanguageServer.Source
