import Mathlib.Data.List.DropRight
import LanguageServer.Proofs.Document.PastEnd
import LanguageServer.Proofs.Text.Boundary

/-!
# Byte offsets and positions

Every byte offset between two characters of a text has a position: the number of line feeds before
it, and the UTF-16 length of what stands before it on its line (`Position.ofOffset`).  A query reads
this position as the same offset, unless the offset lies among the breaks at the end of its line;
then it reads the end of the content of the line (`Position.byteOffset_ofOffset`).

In the other direction every position is read as an offset between two characters, a later position
never as an earlier offset, and a line that the text does not have as the end of the text.  All of
it is `Position.byteOffset_roundTrip`.
-/

namespace LanguageServer

namespace Text

/-! ## The line around a place -/

/-- What stands before a place on its line, where `front` is the text before the place. -/
def lineLead (front : List Char) : List Char :=
  front.rtakeWhile (· != '\n')

/-- The line that a place lies on, without its line feed, where `front` and `back` are the text
before and after the place. -/
def lineAround (front back : List Char) : List Char :=
  lineLead front ++ back.takeWhile (· != '\n')

/-- The byte offset at which the content of the line around an offset ends: the line without all
line feeds and carriage returns at its end. -/
def contentEnd (text : List Char) (offset : Nat) : Nat :=
  let front := takeBytes offset text
  let line := lineAround front (dropBytes offset text)
  let content := line.rdropWhile fun c => c == '\n' || c == '\r'
  offset - byteLength (lineLead front) + byteLength content

lemma lineFeed_notMem_lineLead (front : List Char) : '\n' ∉ lineLead front := by
  intro hmem
  simpa using List.mem_rtakeWhile_imp hmem

/-- The text before a place is made up of earlier lines and of what stands before it on its line. -/
lemma exists_eq_append_lineLead (front : List Char) :
    ∃ before, front = before ++ lineLead front ∧ Ended before := by
  refine ⟨front.rdropWhile (· != '\n'), List.rdropWhile_append_rtakeWhile.symm, ?_⟩
  intro c hc
  obtain ⟨hne, rfl⟩ := List.mem_getLast?_eq_getLast hc
  simpa using List.rdropWhile_last_not _ _ hne

lemma length_pieces {cs : List Char} (h : Ended cs) : (pieces cs).length = lineFeeds cs := by
  rw [← length_lines h, lines, List.length_map]

lemma takeWhile_append_of_notMem {lead : List Char} (hlead : '\n' ∉ lead) (back : List Char) :
    (lead ++ back).takeWhile (· != '\n') = lead ++ back.takeWhile (· != '\n') := by
  refine List.takeWhile_append_of_pos fun c hc => ?_
  rw [bne_iff_ne]
  rintro rfl
  exact hlead hc

lemma withoutBreaks_headD_pieces (cs : List Char) :
    withoutBreaks ((pieces cs).headD []) = withoutBreaks (cs.takeWhile (· != '\n')) := by
  by_cases hfeed : '\n' ∈ cs
  · obtain ⟨body, rest, rfl, hbody⟩ := List.eq_append_cons_of_mem hfeed
    rw [pieces_line hbody, takeWhile_append_of_notMem hbody, List.takeWhile_cons_of_neg (by simp),
      List.append_nil]
    exact List.rdropWhile_concat_pos _ _ '\n' rfl
  · have hline := takeWhile_append_of_notMem hfeed []
    rw [List.append_nil, List.takeWhile_nil, List.append_nil] at hline
    rw [hline]
    by_cases hne : cs = []
    · rw [hne]
      rfl
    · rw [pieces_unended hfeed hne, List.headD_cons]

/-! ## Columns of beginnings -/

/-- The column at the end of a beginning of a line, read on the content of the line: it is the end
of the beginning, or the end of the content if that comes first. -/
lemma columnBytes_unitLength {lead content line : List Char} (hlead : lead <+: line)
    (hcontent : content <+: line) :
    columnBytes (unitLength lead) content = min (byteLength lead) (byteLength content) := by
  rw [columnBytes_eq]
  rcases List.prefix_or_prefix_of_prefix hlead hcontent with ⟨more, rfl⟩ | ⟨more, rfl⟩
  · rw [take_columnChars_unitLength, byteLength_append, Nat.min_eq_left (Nat.le_add_right _ _)]
  · have hcolumn := columnChars_add content [] (unitLength more)
    rw [List.append_nil, columnChars, Nat.add_zero] at hcolumn
    rw [unitLength_append, hcolumn, List.take_length, byteLength_append,
      Nat.min_eq_right (Nat.le_add_right _ _)]

end Text

open Text

namespace Position

/-! ## From offsets to positions and back -/

/-- The position of a byte offset: the number of line feeds before it, and the UTF-16 length of what
stands before it on its line. -/
def ofOffset (text : List Char) (offset : Nat) : Position :=
  let front := takeBytes offset text
  ⟨lineFeeds front, unitLength (lineLead front)⟩

lemma byteOffset_append {before : List Char} (h : Ended before) (rest : List Char) (column : Nat) :
    byteOffset (before ++ rest) ⟨lineFeeds before, column⟩ =
      byteLength before + columnBytes column (withoutBreaks (rest.takeWhile (· != '\n'))) := by
  have hlength := length_pieces h
  have hline : (pieces before ++ pieces rest).getD (lineFeeds before) [] =
      (pieces rest).headD [] := by
    rw [List.getD_append_right _ _ _ _ hlength.le, hlength, Nat.sub_self]
    cases pieces rest <;> rfl
  rw [byteOffset_eq, pieces_append h, hline, withoutBreaks_headD_pieces, ← hlength, List.take_left,
    flatten_pieces]

/-- **The position of an offset is read as the offset**, or as the end of the content of its line
when the offset lies behind it. -/
lemma byteOffset_ofOffset {text : List Char} {offset : Nat} (h : IsBoundary text offset) :
    (ofOffset text offset).byteOffset text = min offset (contentEnd text offset) := by
  obtain ⟨front, back, rfl, rfl⟩ := isBoundary_iff.mp h
  obtain ⟨before, hfront, hended⟩ := exists_eq_append_lineLead front
  have hlead := lineFeed_notMem_lineLead front
  have hfeeds : lineFeeds front = lineFeeds before := by
    rw [hfront, lineFeeds, List.count_append, List.count_eq_zero.mpr hlead, Nat.add_zero, lineFeeds]
  have hbytes : byteLength front = byteLength before + byteLength (lineLead front) := by
    rw [← byteLength_append, ← hfront]
  have hstart : lineLead front <+: lineAround front back := List.prefix_append _ _
  have hcontent : withoutBreaks (lineAround front back) <+: lineAround front back :=
    List.rdropWhile_prefix _ _
  have hread := byteOffset_append hended (lineLead front ++ back) (unitLength (lineLead front))
  rw [← List.append_assoc, ← hfront, takeWhile_append_of_notMem hlead, ← lineAround,
    columnBytes_unitLength hstart hcontent, ← hfeeds] at hread
  have hend : contentEnd (front ++ back) (byteLength front) =
      byteLength before + byteLength (withoutBreaks (lineAround front back)) := by
    rw [contentEnd, takeBytes_byteLength_append, dropBytes_byteLength_append, hbytes,
      Nat.add_sub_cancel]
    rfl
  rw [ofOffset, takeBytes_byteLength_append, hread, hend, hbytes, Nat.add_min_add_left]

/-! ## Offsets of all positions -/

lemma byteOffset_of_length_le {text : List Char} {position : Position}
    (hline : (pieces text).length ≤ position.line) :
    position.byteOffset text = byteLength text := by
  rw [byteOffset_eq, List.take_of_length_le hline, flatten_pieces, List.getD_eq_default _ _ hline]
  simp [withoutBreaks, columnBytes]

/-- A position is read as an offset that lies on its line. -/
lemma exists_byteOffset_eq (text : List Char) (position : Position) :
    ∃ lead rest,
      beforeLine (position.line + 1) text = beforeLine position.line text ++ lead ++ rest ∧
      position.byteOffset text = byteLength (beforeLine position.line text ++ lead) := by
  set piece := (pieces text).getD position.line [] with hpiece
  set content := withoutBreaks piece with hcontent
  set count := columnChars position.character content
  have hnext : beforeLine (position.line + 1) text = beforeLine position.line text ++ piece := by
    rw [beforeLine, List.take_add_one, List.flatten_append, beforeLine, hpiece,
      List.getD_eq_getElem?_getD]
    cases (pieces text)[position.line]? <;> simp
  obtain ⟨breaks, hbreaks⟩ : content <+: piece := List.rdropWhile_prefix _ _
  refine ⟨content.take count, content.drop count ++ breaks, ?_, ?_⟩
  · rw [hnext, List.append_assoc, ← List.append_assoc (content.take count), List.take_append_drop,
      hbreaks]
  · rw [byteOffset_eq, ← hpiece, ← hcontent, columnBytes_eq, byteLength_append, beforeLine]

/-- Every position is read as an offset between two characters. -/
lemma isBoundary_byteOffset (text : List Char) (position : Position) :
    IsBoundary text (position.byteOffset text) := by
  obtain ⟨lead, rest, hnext, hoffset⟩ := exists_byteOffset_eq text position
  have htext : text = beforeLine position.line text ++ lead ++
      (rest ++ fromLine (position.line + 1) text) := by
    rw [← List.append_assoc, ← hnext, beforeLine_append_fromLine]
  exact isBoundary_iff.mpr ⟨_, _, htext, hoffset.symm⟩

lemma byteLength_beforeLine_mono {line line' : Nat} (hle : line ≤ line') (text : List Char) :
    byteLength (beforeLine line text) ≤ byteLength (beforeLine line' text) := by
  obtain ⟨more, rfl⟩ := Nat.exists_eq_add_of_le hle
  rw [beforeLine, beforeLine, List.take_add, List.flatten_append, byteLength_append]
  exact Nat.le_add_right _ _

/-- A later position is not read as an earlier offset. -/
lemma byteOffset_mono {text : List Char} {position other : Position}
    (horder : position.NotAfter other) : position.byteOffset text ≤ other.byteOffset text := by
  rcases horder with hlt | ⟨hline, hcolumn⟩
  · obtain ⟨lead, rest, hnext, hoffset⟩ := exists_byteOffset_eq text position
    obtain ⟨lead', -, -, hoffset'⟩ := exists_byteOffset_eq text other
    calc
      position.byteOffset text ≤ byteLength (beforeLine (position.line + 1) text) := by
        rw [hoffset, hnext, byteLength_append _ rest]
        exact Nat.le_add_right _ _
      _ ≤ byteLength (beforeLine other.line text) := byteLength_beforeLine_mono hlt text
      _ ≤ other.byteOffset text := by
        rw [hoffset', byteLength_append]
        exact Nat.le_add_right _ _
  · rw [byteOffset_eq, byteOffset_eq, hline]
    exact Nat.add_le_add_left (columnBytes_mono hcolumn _) _

/-- **Byte offsets and positions correspond.**  For every text:

* an offset between two characters that does not lie behind the content of its line is what its
  position is read as, and of any other such offset the position is read as the end of the content;
* every position is read as an offset between two characters of the text;
* a position that does not lie after another is not read as a later offset;
* a line past the pieces of the text is read as the end of the text. -/
theorem byteOffset_roundTrip (text : List Char) :
    (∀ offset, IsBoundary text offset →
      (offset ≤ contentEnd text offset → (ofOffset text offset).byteOffset text = offset) ∧
      (contentEnd text offset < offset →
        (ofOffset text offset).byteOffset text = contentEnd text offset)) ∧
    (∀ position : Position, IsBoundary text (position.byteOffset text) ∧
      position.byteOffset text ≤ byteLength text) ∧
    (∀ position other : Position, position.NotAfter other →
      position.byteOffset text ≤ other.byteOffset text) ∧
    (∀ position : Position, (pieces text).length ≤ position.line →
      position.byteOffset text = byteLength text) := by
  refine ⟨fun offset hoffset => ⟨fun hle => ?_, fun hlt => ?_⟩, fun position => ?_,
    fun position other => byteOffset_mono, fun position => byteOffset_of_length_le⟩
  · rw [byteOffset_ofOffset hoffset, Nat.min_eq_left hle]
  · rw [byteOffset_ofOffset hoffset, Nat.min_eq_right hlt.le]
  · have hinside := isBoundary_byteOffset text position
    obtain ⟨front, back, htext, hfront⟩ := isBoundary_iff.mp hinside
    refine ⟨hinside, ?_⟩
    rw [← hfront, htext, byteLength_append]
    exact Nat.le_add_right _ _

/-- An offset between a carriage return and its line feed lies behind the content of its line. -/
example : ofOffset ['a', '😀', '\r', '\n', 'b'] 6 = ⟨0, 4⟩ ∧
    byteOffset ['a', '😀', '\r', '\n', 'b'] ⟨0, 4⟩ = 5 := by
  decide

end Position

end LanguageServer
