import LanguageServer.Proofs.Document.Splice
import LanguageServer.Proofs.Text.Column

/-!
# Changes of any range

The positions of a range may lie anywhere: on lines that the text does not have, past the end of a
line, inside a surrogate pair, and the second before the first.  The operations on a text that make
a change do not accept everything.  A line is looked up by a number that the text has, what is
removed lies in the text and does not end before it starts, and what is inserted goes to a place in
the text; `Change.applied?` makes the change by these operations and fails where one of them does.

It never fails, whatever the range is (`Change.applied?_eq`).  A position denotes a place on a line
that the text has (`Position.Denotes`), so it lies within the text, and the end of a stretch is not
taken to lie before its start.  Every change of a range therefore replaces one stretch of the text
and keeps the rest (`Document.apply_any_range`).
-/

namespace LanguageServer

namespace Text

/-! ## Operations that may fail -/

/-- The edit line with this number. -/
def editLine? (line : Nat) (text : List Char) : Option (List Char) :=
  (editLines text)[line]?

/-- The number of characters before the edit line with this number.  The number after the last one
stands for the end of the text. -/
def editLineStart? (line : Nat) (text : List Char) : Option Nat :=
  if line ≤ (editLines text).length then some ((editLines text).take line).flatten.length else none

/-- The text without the characters from `start` on and before `stop`. -/
def remove? (start stop : Nat) (text : List Char) : Option (List Char) :=
  if start ≤ stop ∧ stop ≤ text.length then some (text.take start ++ text.drop stop) else none

/-- The text with another one inserted behind the first characters. -/
def insert? (count : Nat) (inserted text : List Char) : Option (List Char) :=
  if count ≤ text.length then some (text.take count ++ inserted ++ text.drop count) else none

/-- What is removed in order and within the text leaves a place to insert something at. -/
lemma remove?_bind_insert? {start stop : Nat} {text : List Char} (horder : start ≤ stop)
    (hstop : stop ≤ text.length) (inserted : List Char) :
    (remove? start stop text).bind (insert? start inserted) =
      some (text.take start ++ inserted ++ text.drop stop) := by
  have hlength : (text.take start).length = start :=
    List.length_take_of_le (Nat.le_trans horder hstop)
  have hplace : start ≤ (text.take start ++ text.drop stop).length := by
    rw [List.length_append, hlength]
    exact Nat.le_add_right _ _
  have hfront : (text.take start ++ text.drop stop).take start = text.take start :=
    List.take_left' hlength
  have hback : (text.take start ++ text.drop stop).drop start = text.drop stop :=
    List.drop_left' hlength
  rw [remove?, if_pos ⟨horder, hstop⟩, Option.bind_some, insert?, if_pos hplace, hfront, hback]

end Text

open Text

/-! ## Positions -/

namespace Position

/-- The place that an edit reads a position as.  It lies on the edit line of the position, or on the
last one when the text has fewer lines, at the first boundary between characters that does not lie
before the column, or at the end of the line when it is shorter. -/
def Denotes (text : List Char) (position : Position) (offset : Nat) : Prop :=
  ∃ before line after count, editLines text = before ++ line :: after ∧
    before.length = min position.line (before.length + after.length) ∧
    IsLeast {n | position.character ≤ unitLength (line.take n) ∨ n = line.length} count ∧
    offset = before.flatten.length + count

variable {text : List Char} {position : Position}

/-- The number of an edit line that a position is read on. -/
def editLineNumber (text : List Char) (position : Position) : Nat :=
  min position.line ((editLines text).length - 1)

lemma editLineNumber_lt (text : List Char) (position : Position) :
    position.editLineNumber text < (editLines text).length := by
  have hpos := List.length_pos_iff.mpr (editLines_ne_nil text)
  rw [editLineNumber]
  omega

lemma denotes_editOffset (text : List Char) (position : Position) :
    position.Denotes text (position.editOffset text) := by
  have hline := editLineNumber_lt text position
  have hsplit : editLines text = (editLines text).take (position.editLineNumber text) ++
      (editLines text).getD (position.editLineNumber text) [] ::
        (editLines text).drop (position.editLineNumber text + 1) := by
    rw [List.getD_eq_getElem _ _ hline, List.getElem_cons_drop, List.take_append_drop]
  have hoffset : position.editOffset text =
      ((editLines text).take (position.editLineNumber text)).flatten.length +
        columnChars position.character ((editLines text).getD (position.editLineNumber text) []) :=
    rfl
  refine ⟨_, _, _, _, hsplit, ?_, isLeast_columnChars _ _, hoffset⟩
  rw [List.length_take_of_le (Nat.le_of_lt hline), List.length_drop, editLineNumber]
  omega

lemma Denotes.le_length {offset : Nat} (h : position.Denotes text offset) :
    offset ≤ text.length := by
  obtain ⟨before, line, after, count, hlines, -, hcount, rfl⟩ := h
  have hle : count ≤ line.length := hcount.2 (Or.inr rfl)
  have htext : text = before.flatten ++ (line ++ after.flatten) := by
    rw [← flatten_editLines text, hlines, List.flatten_append, List.flatten_cons]
  rw [htext, List.length_append, List.length_append]
  omega

/-- The place of a position, looked up by operations that may fail. -/
def editOffset? (text : List Char) (position : Position) : Option Nat := do
  let number := position.editLineNumber text
  let line ← editLine? number text
  let start ← editLineStart? number text
  some (start + columnChars position.character line)

lemma editOffset?_eq (text : List Char) (position : Position) :
    position.editOffset? text = some (position.editOffset text) := by
  have hline := editLineNumber_lt text position
  have hfound : editLine? (position.editLineNumber text) text =
      some ((editLines text).getD (position.editLineNumber text) []) := by
    rw [editLine?, List.getD_eq_getElem _ _ hline, List.getElem?_eq_getElem hline]
  have hstart : editLineStart? (position.editLineNumber text) text =
      some ((editLines text).take (position.editLineNumber text)).flatten.length :=
    if_pos (Nat.le_of_lt hline)
  simp only [editOffset?, hfound, hstart, Option.bind_eq_bind, Option.bind_some]
  rfl

end Position

/-! ## Changes -/

/-- The text after the change, made by operations that may fail. -/
def Change.applied? (change : Change) (text : List Char) : Option (List Char) :=
  match change.range with
  | none => some change.text.toList
  | some range => do
    let start ← range.start.editOffset? text
    let stop ← range.stop.editOffset? text
    let rest ← remove? start (max stop start) text
    insert? start change.text.toList rest

/-- **No change fails.** -/
lemma Change.applied?_eq (change : Change) (text : List Char) :
    change.applied? text = some (change.apply text) := by
  obtain ⟨range, replacement⟩ := change
  cases range with
  | none => rfl
  | some range =>
    have hstart := (range.start.denotes_editOffset text).le_length
    have hstop := (range.stop.denotes_editOffset text).le_length
    have hmade := remove?_bind_insert? (Nat.le_max_right (range.stop.editOffset text)
      (range.start.editOffset text)) (Nat.max_le.mpr ⟨hstop, hstart⟩) replacement.toList
    simp only [Change.applied?, Position.editOffset?_eq, Option.bind_eq_bind, Option.bind_some]
    rw [hmade, Nat.max_comm]
    rfl

/-- **A change of any range replaces one stretch of the text.**  Whatever the two positions are,
none of the operations that make the change fails.  The positions denote places in the text.  What
lies between them is replaced, and nothing is replaced when the second lies before the first: then
the new text is inserted at the first.  All else stays as it is, the document has one revision more,
and it keeps its version. -/
theorem Document.apply_any_range (document : Document) (range : Range) (replacement : String) :
    let text := document.text.toList
    let change : Change := ⟨some range, replacement⟩
    let after := document.apply change
    change.applied? text = some after.text.toList ∧
      (∃ start stop cut, range.start.Denotes text start ∧ range.stop.Denotes text stop ∧
        start ≤ cut ∧ cut ≤ text.length ∧
        (start ≤ stop → cut = stop) ∧ (stop < start → cut = start) ∧
        after.text.toList = text.take start ++ replacement.toList ++ text.drop cut) ∧
      after.revision = document.revision + 1 ∧ after.version = document.version := by
  intro text change after
  have hafter : after.text.toList = change.apply text := String.toList_ofList
  have hstart := range.start.denotes_editOffset text
  have hstop := range.stop.denotes_editOffset text
  have hversion : after.version = document.version := by simp only [after, Document.apply]
  refine ⟨by rw [hafter, Change.applied?_eq], ?_, rfl, hversion⟩
  exact ⟨_, _, max (range.start.editOffset text) (range.stop.editOffset text), hstart, hstop,
    Nat.le_max_left _ _, Nat.max_le.mpr ⟨hstart.le_length, hstop.le_length⟩, Nat.max_eq_right,
    fun hlt => Nat.max_eq_left (Nat.le_of_lt hlt), hafter⟩

/-- A range that begins on a line past the last one and ends inside a surrogate pair of the first
line. -/
example : (Document.opened "a😀\nb" none).apply ⟨some ⟨⟨7, 9⟩, ⟨0, 2⟩⟩, "!"⟩ =
    ⟨"a😀\nb!", none, 1⟩ := by
  decide +kernel

end LanguageServer
