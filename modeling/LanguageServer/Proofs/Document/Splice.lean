import Mathlib.Data.List.GetD
import LanguageServer.Proofs.Text.Line
import LanguageServer.Document

/-!
# Edits and queries read a position as the same place

An edit reads a position on edit lines and counts characters, a query reads it on query lines and
counts bytes.  This file shows that on a text with plain breaks both denote the same place, for
every position that lies in the text (`Position.byteLength_take_editOffset`).  A change of a range
then cuts the text exactly at the two byte offsets that a query would compute
(`Document.apply_eq_cut_at_byteOffsets`).

The argument has three steps.

* Each reading is a sum: what lies in the lines before, and what lies before the column on the line
  itself (`Position.take_editOffset`, `Position.byteOffset_eq`).
* On plain breaks the lines before are the same and the line itself is the same, up to the empty
  line at the end, which has one column only (`Text.PlainBreaks.take_editLines`,
  `Text.PlainBreaks.getD_editLines`).
* A column within the body of the line does not see its terminator.
-/

namespace LanguageServer

open Text

namespace Text.PlainBreaks

variable {cs : List Char} {line : Nat}

lemma take_editLines (h : PlainBreaks cs) (hline : line < (editLines cs).length) :
    (editLines cs).take line = (pieces cs).take line := by
  rcases h.editLines_eq with e | e
  · rw [e]
  · rw [e, List.length_append, List.length_singleton] at hline
    rw [e, List.take_append_of_le_length (by omega)]

lemma getD_editLines (h : PlainBreaks cs) :
    (editLines cs).getD line [] = (pieces cs).getD line [] := by
  rcases h.editLines_eq with e | e
  · rw [e]
  · rw [e]
    rcases Nat.lt_or_ge line (pieces cs).length with hlt | hge
    · rw [List.getD_append _ _ _ _ hlt]
    · rw [List.getD_append_right _ _ _ _ hge, List.getD_eq_default _ _ hge]
      cases line - (pieces cs).length <;> rfl

end Text.PlainBreaks

namespace Position

/-! ## The two readings as sums -/

/-- The bytes before a position: those of the lines before, and those before its column. -/
lemma byteOffsetIn_eq (column offset line : Nat) (ps : List (List Char)) :
    byteOffsetIn column offset line ps =
      offset + byteLength (ps.take line).flatten +
        columnBytes column (withoutBreaks (ps.getD line [])) := by
  have hnil : columnBytes column (withoutBreaks []) = 0 := by
    simp [withoutBreaks, columnBytes]
  induction ps generalizing offset line with
  | nil => cases line <;> simp [byteOffsetIn, hnil]
  | cons p ps ih =>
    cases line with
    | zero => simp [byteOffsetIn]
    | succ line =>
      rw [byteOffsetIn, ih]
      simp [Nat.add_assoc]

lemma byteOffset_eq (text : List Char) (position : Position) :
    position.byteOffset text =
      byteLength ((pieces text).take position.line).flatten +
        columnBytes position.character (withoutBreaks ((pieces text).getD position.line [])) := by
  rw [byteOffset, byteOffsetIn_eq, Nat.zero_add]

lemma editOffset_eq {text : List Char} {position : Position}
    (hline : position.line < (editLines text).length) :
    position.editOffset text =
      ((editLines text).take position.line).flatten.length +
        columnChars position.character ((editLines text).getD position.line []) := by
  have hmin : min position.line ((editLines text).length - 1) = position.line := by omega
  simp only [editOffset, hmin]

lemma take_editOffset {text : List Char} {position : Position}
    (hline : position.line < (editLines text).length) :
    text.take (position.editOffset text) =
      ((editLines text).take position.line).flatten ++
        ((editLines text).getD position.line []).take
          (columnChars position.character ((editLines text).getD position.line [])) := by
  rw [editOffset_eq hline]
  set ls := editLines text with hls
  have hsplit : text = (ls.take position.line).flatten ++
      (ls.getD position.line [] ++ (ls.drop (position.line + 1)).flatten) := by
    rw [List.getD_eq_getElem _ _ hline, ← List.flatten_cons, List.getElem_cons_drop,
      ← List.flatten_append, List.take_append_drop, hls, flatten_editLines]
  have hcolumn := columnChars_le_length position.character (ls.getD position.line [])
  conv => lhs; rw [hsplit]
  rw [List.take_length_add_append, List.take_append_of_le_length hcolumn]

/-! ## Positions in a text -/

/-- The position lies in the text: its line is an edit line, and its column does not lie past the
content of that line.  The terminator is what a query line leaves out. -/
structure InText (text : List Char) (position : Position) : Prop where
  line_lt : position.line < (editLines text).length
  character_le : position.character ≤
    unitLength (splitTerminator ((editLines text).getD position.line [])).1

/-- The position does not lie after the other one. -/
def NotAfter (position other : Position) : Prop :=
  position.line < other.line ∨
    position.line = other.line ∧ position.character ≤ other.character

/-- **The two readings agree.**  On plain breaks the characters that an edit counts before a
position take exactly the bytes that a query counts. -/
lemma byteLength_take_editOffset {text : List Char} {position : Position}
    (hbreaks : PlainBreaks text) (hin : position.InText text) :
    byteLength (text.take (position.editOffset text)) = position.byteOffset text := by
  have hcharacter := hin.character_le
  rw [take_editOffset hin.line_lt, byteOffset_eq, byteLength_append,
    hbreaks.take_editLines hin.line_lt]
  rw [hbreaks.getD_editLines] at hcharacter ⊢
  congr 1
  rcases Nat.lt_or_ge position.line (pieces text).length with hlt | hge
  · have hmem : (pieces text).getD position.line [] ∈ pieces text := by
      rw [List.getD_eq_getElem _ _ hlt]
      exact List.getElem_mem hlt
    obtain ⟨body, terminator, hterminator, hpiece, hbody⟩ := hbreaks.piece_eq hmem
    rw [hpiece, splitTerminator_body hterminator hbody] at hcharacter
    rw [hpiece, withoutBreaks_body hterminator hbody, take_columnChars_append hcharacter,
      columnBytes_eq]
  · -- The line after a final line feed is empty on both sides.
    rw [List.getD_eq_default _ _ hge]
    simp [withoutBreaks, columnBytes]

lemma editOffset_le_editOffset {text : List Char} {position other : Position}
    (hin : other.line < (editLines text).length) (horder : position.NotAfter other) :
    position.editOffset text ≤ other.editOffset text := by
  have hline : position.line < (editLines text).length := by
    rcases horder with hlt | ⟨heq, -⟩ <;> omega
  rw [editOffset_eq hline, editOffset_eq hin]
  rcases horder with hlt | ⟨heq, hle⟩
  · -- The line of the first position ends where a later line begins, or before.
    have hnext : ((editLines text).take (position.line + 1)).flatten.length ≤
        ((editLines text).take other.line).flatten.length := by
      obtain ⟨k, hk⟩ := Nat.exists_eq_add_of_le (Nat.succ_le_of_lt hlt)
      rw [hk, List.take_add (i := position.line + 1), List.flatten_append, List.length_append]
      exact Nat.le_add_right _ _
    have hcolumn :=
      columnChars_le_length position.character ((editLines text).getD position.line [])
    rw [List.take_succ_eq_append_getElem hline, List.flatten_append, List.length_append,
      List.flatten_singleton] at hnext
    rw [List.getD_eq_getElem _ _ hline] at hcolumn ⊢
    omega
  · rw [heq]
    exact Nat.add_le_add_left (columnChars_mono hle _) _

end Position

/-! ## Changes -/

/-- **A change of a range cuts the text at the byte offsets of the range.**  On plain breaks, for a
range that lies in the text, the text after the change is the text before the first byte offset,
the new text, and the text from the second byte offset on.  Both offsets are exact: they lie on
boundaries of characters, so no part of a character is cut off, and in this order. -/
theorem Document.apply_eq_cut_at_byteOffsets (document : Document) (range : Range)
    (replacement : String) (hbreaks : PlainBreaks document.text.toList)
    (hstart : range.start.InText document.text.toList)
    (hstop : range.stop.InText document.text.toList)
    (horder : range.start.NotAfter range.stop) :
    let text := document.text.toList
    let start := range.start.byteOffset text
    let stop := range.stop.byteOffset text
    (document.apply ⟨some range, replacement⟩).text.toList =
        takeBytes start text ++ replacement.toList ++ dropBytes stop text ∧
      byteLength (takeBytes start text) = start ∧
      byteLength (takeBytes stop text) = stop ∧
      start ≤ stop := by
  intro text start stop
  have hs := Position.byteLength_take_editOffset hbreaks hstart
  have he := Position.byteLength_take_editOffset hbreaks hstop
  have hle := Position.editOffset_le_editOffset hstop.line_lt horder
  have htake : takeBytes start text = text.take (range.start.editOffset text) := by
    rw [← takeBytes_byteLength_take, hs]
  have htake' : takeBytes stop text = text.take (range.stop.editOffset text) := by
    rw [← takeBytes_byteLength_take, he]
  have hdrop : dropBytes stop text = text.drop (range.stop.editOffset text) := by
    rw [← dropBytes_byteLength_take, he]
  refine ⟨?_, ?_, ?_, ?_⟩
  · rw [htake, hdrop]
    simp [Document.apply, Change.apply, Change.splice, Nat.max_eq_right hle, text]
  · rw [htake, hs]
  · rw [htake', he]
  · calc
      start = byteLength (text.take (range.start.editOffset text)) := hs.symm
      _ ≤ byteLength (text.take (range.stop.editOffset text)) := byteLength_take_mono hle text
      _ = stop := he

/-- The change of a range that begins inside a surrogate pair, runs over both kinds of terminator
and ends on the empty line after the last one. -/
theorem Document.apply_eq_cut_at_byteOffsets_pair :
    let document : Document := ⟨String.ofList ['a', '😀', '\r', '\n', 'b', '\n'], some 1, 4⟩
    let range : Range := ⟨⟨0, 2⟩, ⟨2, 0⟩⟩
    PlainBreaks document.text.toList ∧ range.start.InText document.text.toList ∧
      range.stop.InText document.text.toList ∧ range.start.NotAfter range.stop ∧
      (document.apply ⟨some range, "é"⟩).text.toList = ['a', '😀', 'é'] := by
  intro document range
  have htext : document.text.toList = ['a', '😀', '\r', '\n', 'b', '\n'] := String.toList_ofList
  have hbreaks : PlainBreaks document.text.toList := by
    rw [htext]
    refine ⟨fun i hi => ?_, by simp [rareBreaks]⟩
    obtain ⟨hlt, -⟩ := List.getElem?_eq_some_iff.mp hi
    revert hi
    revert i
    decide
  have hstart : range.start.InText document.text.toList := by
    rw [htext]
    exact ⟨by decide, by decide⟩
  have hstop : range.stop.InText document.text.toList := by
    rw [htext]
    exact ⟨by decide, by decide⟩
  have horder : range.start.NotAfter range.stop := Or.inl (by decide)
  refine ⟨hbreaks, hstart, hstop, horder, ?_⟩
  rw [(Document.apply_eq_cut_at_byteOffsets document range "é" hbreaks hstart hstop horder).1,
    htext]
  decide

end LanguageServer
