import Mathlib.Data.List.Nodup
import LanguageServer.Proofs.Document.Insertion

/-!
# Insertions past the end of a line

A query reads a column past the content of its line as the end of the content.  An edit measures the
line with its terminator, so that such a column has a part of the terminator before it: the whole of
it, or the carriage return alone when the column lies one unit past the content and a line feed
follows.  What is inserted there lands behind that part, on the next line or between the two
characters of the terminator.

`Document.insertion_past_content_iff` says where the insertion lands, which is never the end of the
content.  The text comes out as if it were when what is inserted commutes with the part of the
terminator that was passed, that is, when it repeats this part (`Text.append_comm_iff_of_nodup`),
and only then.
-/

namespace LanguageServer

namespace Text

/-! ## Texts that commute -/

/-- A text commutes with one that holds no character twice only if it repeats it. -/
lemma append_comm_iff_of_nodup {word : List Char} (hne : word ≠ []) (hnodup : word.Nodup)
    (cs : List Char) :
    cs ++ word = word ++ cs ↔ ∃ count, cs = (List.replicate count word).flatten := by
  constructor
  · intro hcomm
    induction hlength : cs.length using Nat.strongRecOn generalizing cs with
    | ind n ih =>
      rcases List.append_eq_append_iff.mp hcomm with ⟨rest, hfront, hback⟩ | ⟨rest, hfront, hback⟩
      · -- The word begins with the text and with the rest, so one of them is empty.
        rcases cs with _ | ⟨c, cs⟩
        · exact ⟨0, rfl⟩
        · rcases rest with _ | ⟨d, rest⟩
          · exact ⟨1, by simp [hfront]⟩
          · have hhead : c = d := (List.cons.inj (hfront.symm.trans hback)).1
            rw [hfront, hhead] at hnodup
            simp at hnodup
      · have hpos := List.length_pos_iff.mpr hne
        have hshorter : rest.length < n := by
          rw [← hlength, hfront, List.length_append]
          omega
        obtain ⟨count, rfl⟩ := ih rest.length hshorter rest (hback.symm.trans hfront) rfl
        exact ⟨count + 1, by rw [hfront, List.replicate_succ, List.flatten_cons]⟩
  · rintro ⟨count, rfl⟩
    induction count with
    | zero => simp
    | succ count ih => rw [List.replicate_succ, List.flatten_cons, List.append_assoc, ih]

/-! ## Columns past the content -/

lemma charUnits_of_mem_terminators {terminator : List Char} (h : terminator ∈ terminators) :
    (∀ c ∈ terminator, charUnits c = 1) ∧ terminator.Nodup := by
  simp only [terminators, List.mem_cons, List.not_mem_nil, or_false] at h
  rcases h with rfl | rfl | rfl <;> simp [charUnits]

lemma beforeLine_append_piece {text piece : List Char} {line : Nat}
    (h : (pieces text)[line]? = some piece) :
    beforeLine line text ++ (piece ++ fromLine (line + 1) text) = text := by
  obtain ⟨hlt, hpiece⟩ := List.getElem?_eq_some_iff.mp h
  have hfrom : fromLine line text = piece ++ fromLine (line + 1) text := by
    rw [fromLine, List.drop_eq_getElem_cons hlt, hpiece, List.flatten_cons, fromLine]
  rw [← hfrom, beforeLine_append_fromLine]

end Text

open Text

namespace Position

variable {text content terminator : List Char} {line : Nat}

lemma byteOffset_past_content (hterminator : terminator ∈ terminators)
    (hcontent : ∀ c ∈ content, c ≠ '\n' ∧ c ≠ '\r')
    (hline : (pieces text)[line]? = some (content ++ terminator)) (more : Nat) :
    byteOffset text ⟨line, unitLength content + more⟩ =
      byteLength (beforeLine line text ++ content) := by
  have hcolumn := columnChars_add content [] more
  rw [List.append_nil, columnChars, Nat.add_zero] at hcolumn
  rw [byteOffset_eq, List.getD_eq_getElem?_getD, hline, Option.getD_some,
    withoutBreaks_body hterminator hcontent, columnBytes_eq, hcolumn, List.take_length, beforeLine,
    byteLength_append]

lemma editOffset_past_content (hbreaks : PlainBreaks text) (hterminator : terminator ∈ terminators)
    (hline : (pieces text)[line]? = some (content ++ terminator)) (more : Nat) :
    editOffset text ⟨line, unitLength content + more⟩ =
      (beforeLine line text ++ (content ++ terminator.take more)).length := by
  obtain ⟨hlt, -⟩ := List.getElem?_eq_some_iff.mp hline
  obtain ⟨hedit, -⟩ := exists_beforeLine_eq hlt
  rw [editOffset_eq hedit, hbreaks.take_editLines hedit, hbreaks.getD_editLines,
    List.getD_eq_getElem?_getD, hline, Option.getD_some, columnChars_add,
    columnChars_of_charUnits (charUnits_of_mem_terminators hterminator).1, List.length_append,
    List.length_append, List.length_take, beforeLine]

end Position

/-! ## Insertions -/

/-- **An insertion past the content of a line passes a part of its terminator.**  On plain breaks,
for a line with a terminator and a column past its content, a query reads the column as the end of
the content.  The insertion lands behind as many characters of the terminator as the column lies
past the content, or behind all of them, and never behind none.  The text is the same as after an
insertion at the end of the content exactly when what is inserted repeats the part of the terminator
that was passed. -/
theorem Document.insertion_past_content_iff (document : Document) {line column : Nat}
    {piece content terminator : List Char} (inserted : String)
    (hbreaks : PlainBreaks document.text.toList)
    (hline : (pieces document.text.toList)[line]? = some piece)
    (hpiece : splitTerminator piece = (content, terminator)) (hended : terminator ≠ [])
    (hcolumn : unitLength content < column) :
    let text := document.text.toList
    let offset := Position.byteOffset text ⟨line, column⟩
    let passed := terminator.take (column - unitLength content)
    let left := terminator.drop (column - unitLength content)
    let after := (document.apply (Change.insertion ⟨line, column⟩ inserted)).text.toList
    takeBytes offset text = beforeLine line text ++ content ∧
      dropBytes offset text = terminator ++ fromLine (line + 1) text ∧
      passed ≠ [] ∧
      after = takeBytes offset text ++ passed ++ inserted.toList ++
        (left ++ fromLine (line + 1) text) ∧
      (after = takeBytes offset text ++ inserted.toList ++ dropBytes offset text ↔
        ∃ count, inserted.toList = (List.replicate count passed).flatten) := by
  intro text offset passed left after
  -- The line is a body without breaks and one of the terminators.
  obtain ⟨body, ending, hending, rfl, hbody⟩ := hbreaks.piece_eq (List.mem_of_getElem? hline)
  rw [splitTerminator_body hending hbody, Prod.mk.injEq] at hpiece
  obtain ⟨rfl, rfl⟩ := hpiece
  obtain ⟨more, hmore⟩ := Nat.exists_eq_add_of_le (Nat.le_of_lt hcolumn)
  have hpassed : passed = ending.take more := by simp only [passed, hmore, Nat.add_sub_cancel_left]
  have hending' : passed ++ left = ending := List.take_append_drop _ _
  have hsplit : beforeLine line text ++ body ++ (ending ++ fromLine (line + 1) text) = text := by
    rw [List.append_assoc, ← List.append_assoc body, beforeLine_append_piece hline]
  have hoffset : offset = byteLength (beforeLine line text ++ body) := by
    simp only [offset, hmore]
    exact Position.byteOffset_past_content hending hbody hline more
  have hbefore := takeBytes_byteLength_append (beforeLine line text ++ body)
    (ending ++ fromLine (line + 1) text)
  have hbehind := dropBytes_byteLength_append (beforeLine line text ++ body)
    (ending ++ fromLine (line + 1) text)
  rw [hsplit, ← hoffset] at hbefore hbehind
  have hne : passed ≠ [] := by
    rw [hpassed, Ne, List.take_eq_nil_iff, not_or]
    exact ⟨by omega, hended⟩
  have hafter : after = takeBytes offset text ++ passed ++ inserted.toList ++
      (left ++ fromLine (line + 1) text) := by
    have hwhole : beforeLine line text ++ (body ++ passed) ++ (left ++ fromLine (line + 1) text) =
        text := by
      calc
        beforeLine line text ++ (body ++ passed) ++ (left ++ fromLine (line + 1) text) =
            beforeLine line text ++ body ++ (passed ++ left ++ fromLine (line + 1) text) := by
          simp only [List.append_assoc]
        _ = text := by rw [hending', hsplit]
    have hedit := Position.editOffset_past_content hbreaks hending hline more
    rw [← hmore, ← hpassed] at hedit
    rw [hbefore, List.append_assoc (beforeLine line text),
      ← Change.apply_insertion_between hwhole hedit inserted]
    exact String.toList_ofList
  refine ⟨hbefore, hbehind, hne, hafter, ?_⟩
  have hnodup : passed.Nodup :=
    (charUnits_of_mem_terminators hending).2.sublist (List.take_sublist _ _)
  rw [← append_comm_iff_of_nodup hne hnodup, hafter, hbehind, ← hending']
  simp only [List.append_assoc, List.append_cancel_left_eq]
  rw [← List.append_assoc, ← List.append_assoc inserted.toList, List.append_cancel_right_eq,
    eq_comm]

/-- One unit past a content that ends with a surrogate pair only the carriage return is passed: what
is inserted splits the terminator, unless it consists of carriage returns. -/
theorem Document.insertion_past_content_iff_return :
    let document := Document.opened (String.ofList ['a', '😀', '\r', '\n', 'b']) none
    let text := document.text.toList
    PlainBreaks text ∧ (pieces text)[0]? = some ['a', '😀', '\r', '\n'] ∧
      splitTerminator ['a', '😀', '\r', '\n'] = (['a', '😀'], ['\r', '\n']) ∧
      unitLength ['a', '😀'] < 4 ∧
      (document.apply (Change.insertion ⟨0, 4⟩ "!")).text.toList =
        ['a', '😀', '\r', '!', '\n', 'b'] ∧
      (document.apply (Change.insertion ⟨0, 4⟩ "\r\r")).text.toList =
        takeBytes (Position.byteOffset text ⟨0, 4⟩) text ++ "\r\r".toList ++
          dropBytes (Position.byteOffset text ⟨0, 4⟩) text := by
  intro document text
  have hbreaks : PlainBreaks text := by decide +kernel
  have hline : (pieces text)[0]? = some ['a', '😀', '\r', '\n'] := by decide +kernel
  have hpiece : splitTerminator ['a', '😀', '\r', '\n'] = (['a', '😀'], ['\r', '\n']) := by
    decide +kernel
  have hcolumn : unitLength ['a', '😀'] < 4 := by decide
  have hnext : fromLine 1 text = ['b'] := by decide +kernel
  obtain ⟨hbefore, -, -, hmark, -⟩ :=
    Document.insertion_past_content_iff document "!" hbreaks hline hpiece (by decide) hcolumn
  obtain ⟨-, -, -, -, hiff⟩ :=
    Document.insertion_past_content_iff document "\r\r" hbreaks hline hpiece (by decide) hcolumn
  refine ⟨hbreaks, hline, hpiece, hcolumn, ?_, hiff.mpr ⟨2, by decide +kernel⟩⟩
  rw [hmark, hbefore, hnext]
  decide +kernel

/-- At a column far past the end of the first line, what is inserted goes to the next line; at the
first column past it, it goes between the carriage return and the line feed. -/
theorem Document.insertion_may_miss_line :
    let feed := Document.opened "let a = 1\nlet b = 2" none
    let returnFeed := Document.opened "a\r\nb" none
    PlainBreaks feed.text.toList ∧ PlainBreaks returnFeed.text.toList ∧
      (pieces feed.text.toList)[0]?.map splitTerminator = some ("let a = 1".toList, ['\n']) ∧
      (pieces returnFeed.text.toList)[0]?.map splitTerminator = some (['a'], ['\r', '\n']) ∧
      Position.byteOffset feed.text.toList ⟨0, 99⟩ = 9 ∧
      Position.byteOffset returnFeed.text.toList ⟨0, 2⟩ = 1 ∧
      (feed.apply (Change.insertion ⟨0, 99⟩ "// note")).text = "let a = 1\n// notelet b = 2" ∧
      (returnFeed.apply (Change.insertion ⟨0, 2⟩ "!")).text = "a\r!\nb" ∧
      (feed.apply (Change.insertion ⟨0, 99⟩ "// note")).text ≠ "let a = 1// note\nlet b = 2" ∧
      (returnFeed.apply (Change.insertion ⟨0, 2⟩ "!")).text ≠ "a!\r\nb" := by
  decide +kernel

end LanguageServer
