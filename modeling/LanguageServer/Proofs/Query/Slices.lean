import LanguageServer.Proofs.Source.CallStack
import LanguageServer.Proofs.Source.FunctionLine
import LanguageServer.Proofs.Source.ParameterList
import LanguageServer.Query.Completion
import LanguageServer.Source.Declaration

/-!
# Where texts are cut

Texts are cut at byte offsets, and most of these offsets were found in another text: in the scrubbed
form, where a character of several bytes may have become several spaces.  An offset of the scrubbed
form is in general no boundary of the text as it is written.  The offsets that are used are, because
of what stands there: a declaration begins with a letter of a keyword and its parameter list lies
between parentheses, and what is visible and no space is code, which scrubbing leaves alone
(`exists_of_flatMap_visible`).

Other offsets are found by loops over single bytes: the function before a parenthesis
(`CallSite.calleeStart`, `CallSite.calleeStop`) and the word around a column.  These classes are
plain ASCII, so that the loops stop between characters.

`Query.slices_at_boundaries` goes through all the cuts.  Each of them is a `Slice` of the text that
is cut, and the answer is made of what was cut out.
-/

namespace LanguageServer

open Text Source

/-! ## Declarations -/

namespace Symbol

lemma ne_space_of_head? {c : Char} {cs rest : List Char} {head : Head}
    (h : head? (c :: cs) = some (head, rest)) : c ≠ ' ' := by
  rintro rfl
  simp [head?, strip?] at h

lemma exists_front_of_mem_findAll {text : List Char} {found : Found Head}
    (h : found ∈ findAll wordStart head? (scrub text)) :
    ∃ front back, text = front ++ back ∧ byteLength front = byteLength found.before := by
  obtain ⟨input, rest, htext, -, hread⟩ := read_of_mem_findAll h
  cases input with
  | nil => cases hread
  | cons c cs =>
    rw [← flatMap_visible_markText] at htext
    obtain ⟨front, back, hmarked, hfront, -⟩ :=
      exists_of_flatMap_visible (ne_space_of_head? hread) htext
    refine ⟨front.map Prod.fst, c :: back.map Prod.fst, ?_, ?_⟩
    · rw [← map_fst_markText text, hmarked, List.map_append, List.map_cons]
    · rw [← byteLength_flatMap_visible, hfront]

/-- The text before a declaration and the parameter list are cut out at boundaries. -/
lemma slices_of_mem_findAll {text : List Char} {found : Found Head}
    (h : found ∈ findAll wordStart head? (scrub text)) (qualifier : Option String) :
    ∃ before list,
      Slice text 0 (byteLength found.before) before ∧
      Slice text (byteLength found.before + found.value.parametersAt)
        (byteLength found.before + found.value.parametersAt + byteLength found.value.parameters)
        list ∧
      (ofFound text qualifier found).location.line = lineFeeds before ∧
      (ofFound text qualifier found).rawParameters = String.ofList (trim list) := by
  obtain ⟨front, back, htext, hfront⟩ := exists_front_of_mem_findAll h
  obtain ⟨list, hlist⟩ := exists_isListOf h
  obtain ⟨lead, rest, hstands, hlead, hlength⟩ := hlist.exists_append
  have hbefore := Slice.of_front front back
  have hcut := takeBytes_byteLength_append front back
  have hslice := Slice.of_append lead (list.map Prod.fst) rest
  rw [← htext, hfront] at hbefore hcut
  rw [← hstands, byteLength_append, hlead, hlength] at hslice
  exact ⟨front, list.map Prod.fst, hbefore, hslice, congrArg lineFeeds hcut,
    hlist.rawParameters qualifier⟩

end Symbol

namespace FunctionLine

/-- The parameter list of a function stands in its line as it is written, at the place that the head
gives. -/
lemma exists_list_of_mem_findAll {line : List Char} {found : Found Head}
    (h : found ∈ findAll wordStart head? (scrubLine line)) :
    ∃ front list back, line = front ++ list ++ back ∧
      byteLength front = byteLength found.before + found.value.parametersAt ∧
      byteLength list = byteLength found.value.parameters := by
  obtain ⟨input, rest, hline, -, hread⟩ := read_of_mem_findAll h
  obtain ⟨lead, inner, after, rfl, hat, hparameters⟩ := exists_of_head? hread
  rw [← flatMap_visible_markLine, ← List.append_assoc, ← List.append_assoc] at hline
  obtain ⟨front, list, back, hmarked, hfront, hlist⟩ :=
    exists_between_of_flatMap_visible (by decide) (by decide) hline
  refine ⟨front.map Prod.fst, '(' :: (list.map Prod.fst ++ [')']), back.map Prod.fst, ?_, ?_, ?_⟩
  · rw [← map_fst_markLine line, hmarked]
    simp
  · rw [← byteLength_flatMap_visible, hfront, byteLength_append, hat]
  · simp only [hparameters, ← hlist, byteLength_cons, byteLength_append,
      byteLength_flatMap_visible]

lemma slice_of_mem_head? {line : String} {found : Found Head}
    (h : found ∈ (findAll wordStart head? (scrubLine line.toList)).head?) :
    ∃ list,
      Slice line.toList (byteLength found.before + found.value.parametersAt)
        (byteLength found.before + found.value.parametersAt + byteLength found.value.parameters)
        list ∧
      find? line = some ⟨String.ofList found.value.name, String.ofList list⟩ := by
  obtain ⟨front, list, back, hline, hfront, hlength⟩ :=
    exists_list_of_mem_findAll (List.mem_of_mem_head? h)
  have hslice := Slice.of_append front list back
  have hbytes := sliceBytes_append front list back
  rw [← hline, byteLength_append, hfront, hlength] at hslice hbytes
  refine ⟨list, hslice, ?_⟩
  simp only [find?, Option.mem_def.mp h, Option.map_some, hbytes]

end FunctionLine

/-! ## Calls -/

namespace CallSite

lemma exists_of_goBack {depth commas passed : Nat} {cs before : List Char}
    (h : goBack depth commas cs = some (passed, before)) :
    ∃ front, cs = front ++ '(' :: before := by
  fun_induction goBack depth commas cs with
  | case1 => cases h
  | case2 depth commas cs ih =>
    obtain ⟨front, rfl⟩ := ih h
    exact ⟨')' :: front, rfl⟩
  | case3 commas cs =>
    cases h
    exact ⟨[], rfl⟩
  | case4 depth commas cs ih =>
    obtain ⟨front, rfl⟩ := ih h
    exact ⟨'(' :: front, rfl⟩
  | case5 commas cs ih =>
    obtain ⟨front, rfl⟩ := ih h
    exact ⟨',' :: front, rfl⟩
  | case6 depth commas c cs _ _ _ _ ih =>
    obtain ⟨front, rfl⟩ := ih h
    exact ⟨c :: front, rfl⟩

/-- Where the function of a call ends, by bytes: before the blanks in front of the parenthesis. -/
def calleeStop (bytes : List UInt8) (paren : Nat) : Nat :=
  backOver isPlainBlank bytes paren

/-- Where the function of a call begins, by bytes. -/
def calleeStart (bytes : List UInt8) (paren : Nat) : Nat :=
  backOver isLookupPart bytes (calleeStop bytes paren)

lemma slice_callee (before after : List Char) :
    Slice (before ++ after) (calleeStart (encode (before ++ after)) (byteLength before))
      (calleeStop (encode (before ++ after)) (byteLength before)) (callee before.reverse) := by
  obtain ⟨name, hcallee⟩ : ∃ name, IsCallee before name := ⟨_, isCallee_iff.mpr rfl⟩
  rw [← isCallee_iff.mp hcallee]
  obtain ⟨lead, blanks, rfl, hblanks, hlast, hname, hlead⟩ := hcallee
  have hstop : calleeStop (encode (lead ++ name ++ blanks ++ after))
      (byteLength (lead ++ name ++ blanks)) = byteLength (lead ++ name) :=
    backOver_encode (fun _ => lt_of_isPlainBlank) hblanks hlast after
  have hstart := backOver_encode (fun _ => lt_of_isLookupPart) hname hlead (blanks ++ after)
  rw [← List.append_assoc] at hstart
  rw [calleeStart, hstop, hstart, List.append_assoc _ blanks]
  exact Slice.of_append lead name (blanks ++ after)

/-- A call that is found by going back has its parenthesis at the place that was reached. -/
lemma exists_after_of_goBack {cs lead : List Char} {commas : Nat}
    (h : goBack 0 0 cs.reverse = some (commas, lead)) :
    ∃ after, cs = lead.reverse ++ '(' :: after := by
  obtain ⟨front, hfront⟩ := exists_of_goBack h
  have hforward := congrArg List.reverse hfront
  rw [List.reverse_reverse, List.reverse_append, List.reverse_cons, List.append_assoc,
    List.singleton_append] at hforward
  exact ⟨front.reverse, hforward⟩

/-- The text before the cursor is cut off at a boundary, and so is the function of the call. -/
lemma slices_at_cursor (text : String) (offset : Nat) :
    ∃ cursor before,
      IsGreatest {n | IsBoundary text.toList n ∧ n ≤ offset} cursor ∧
      Slice text.toList 0 cursor before ∧
      locate? text offset = atEnd? before ∧
      ∀ commas lead, goBack 0 0 (scrub before).reverse = some (commas, lead) →
        ∃ name,
          (encode (scrub before))[byteLength lead.reverse]? = some '('.toUInt8 ∧
          Slice (scrub before) (calleeStart (encode (scrub before)) (byteLength lead.reverse))
            (calleeStop (encode (scrub before)) (byteLength lead.reverse)) name ∧
          locate? text offset = some ⟨String.ofList name, commas⟩ := by
  have hbefore := Slice.of_front (takeBytes offset text.toList) (dropBytes offset text.toList)
  rw [takeBytes_append_dropBytes] at hbefore
  refine ⟨_, takeBytes offset text.toList, isGreatest_byteLength_takeBytes offset text.toList,
    hbefore, rfl, fun commas lead hback => ?_⟩
  obtain ⟨after, hscrub⟩ := exists_after_of_goBack hback
  have hparen : (encode (lead.reverse ++ '(' :: after))[byteLength lead.reverse]? =
      some '('.toUInt8 :=
    getElem?_encode lead.reverse after (c := '(') (k := 0) (by decide)
  have hslice := slice_callee lead.reverse ('(' :: after)
  rw [← hscrub] at hparen hslice
  rw [List.reverse_reverse] at hslice
  exact ⟨callee lead, hparen, hslice, by rw [locate?, atEnd?, hback, Option.map_some]⟩

end CallSite

/-! ## Words -/

namespace Query

lemma slice_word (before after : List Char) :
    ∃ word, Slice (before ++ after)
        (backOver isLookupPart (encode (before ++ after)) (byteLength before))
        (forwardOver isLookupPart (encode (before ++ after)) (byteLength before)) word ∧
      wordAround? before after = if word = [] then none else some word := by
  obtain ⟨lead, run, rfl, hrun, hlead⟩ := exists_run isLookupPart before
  refine ⟨run ++ after.takeWhile isLookupPart, ?_, ?_⟩
  · have hslice := Slice.of_append lead (run ++ after.takeWhile isLookupPart)
      (after.dropWhile isLookupPart)
    rw [← List.append_assoc lead, List.append_assoc _ _ (after.dropWhile isLookupPart),
      List.takeWhile_append_dropWhile] at hslice
    rwa [backOver_encode (fun _ => lt_of_isLookupPart) hrun hlead,
      forwardOver_encode fun _ => lt_of_isLookupPart]
  · rw [wordAround?, takeWhile_reverse_append hrun hlead, List.reverse_reverse]

lemma slice_word_at {text : String} {position : Position} {line : List Char}
    (h : (lines text.toList)[position.line]? = some line) :
    ∃ word start stop,
      start = backOver isLookupPart (encode line) (columnBytes position.character line) ∧
      stop = forwardOver isLookupPart (encode line) (columnBytes position.character line) ∧
      Slice line start stop word ∧
      word? text position = if start < stop then some (String.ofList word) else none := by
  obtain ⟨word, hslice, hword⟩ := slice_word (line.take (columnChars position.character line))
    (line.drop (columnChars position.character line))
  rw [List.take_append_drop, ← columnBytes_eq] at hslice
  refine ⟨word, _, _, rfl, rfl, hslice, ?_⟩
  have hlt := hslice.lt_iff
  rw [word?, h, Option.bind_eq_bind, Option.bind_some, wordAt?, hword]
  by_cases hnil : word = []
  · rw [if_pos hnil, if_neg fun h => hlt.mp h hnil]
    rfl
  · rw [if_neg hnil, if_pos (hlt.mpr hnil)]
    rfl

lemma slice_before_column (snapshot : Snapshot) (position : Position) :
    ∃ line before,
      line = (lines snapshot.text.toList).getD position.line [] ∧
      Slice line 0 (columnBytes position.character line) before ∧
      completions? snapshot position = completionsAfter? snapshot before := by
  generalize hline : (lines snapshot.text.toList).getD position.line [] = line
  have hslice := Slice.of_front (line.take (columnChars position.character line))
    (line.drop (columnChars position.character line))
  rw [List.take_append_drop, ← columnBytes_eq] at hslice
  refine ⟨line, _, rfl, hslice, ?_⟩
  rw [completions?, hline]

/-- **Texts are cut at boundaries only.**  For every text, the byte offsets at which it, one of its
lines or its scrubbed form are cut are boundaries between characters of what is cut, in order and
within it. -/
theorem slices_at_boundaries (text : String) :
    -- The beginning of a declaration, and its parameter list.
    (∀ qualifier, ∀ found ∈ findAll wordStart Symbol.head? (scrub text.toList),
      ∃ before list,
        Slice text.toList 0 (byteLength found.before) before ∧
        Slice text.toList (byteLength found.before + found.value.parametersAt)
          (byteLength found.before + found.value.parametersAt + byteLength found.value.parameters)
          list ∧
        (Symbol.ofFound text.toList qualifier found).location.line = lineFeeds before ∧
        (Symbol.ofFound text.toList qualifier found).rawParameters = String.ofList (trim list)) ∧
    -- The parameter list of a function on a line.
    (∀ line : String,
      ∀ found ∈ (findAll wordStart FunctionLine.head? (scrubLine line.toList)).head?,
      ∃ list,
        Slice line.toList (byteLength found.before + found.value.parametersAt)
          (byteLength found.before + found.value.parametersAt + byteLength found.value.parameters)
          list ∧
        FunctionLine.find? line = some ⟨String.ofList found.value.name, String.ofList list⟩) ∧
    -- The place of the cursor, and the function that is called there.
    (∀ offset, ∃ cursor before,
      IsGreatest {n | IsBoundary text.toList n ∧ n ≤ offset} cursor ∧
      Slice text.toList 0 cursor before ∧
      CallSite.locate? text offset = CallSite.atEnd? before ∧
      ∀ commas lead, CallSite.goBack 0 0 (scrub before).reverse = some (commas, lead) →
        ∃ name,
          (encode (scrub before))[byteLength lead.reverse]? = some '('.toUInt8 ∧
          Slice (scrub before)
            (CallSite.calleeStart (encode (scrub before)) (byteLength lead.reverse))
            (CallSite.calleeStop (encode (scrub before)) (byteLength lead.reverse)) name ∧
          CallSite.locate? text offset = some ⟨String.ofList name, commas⟩) ∧
    -- The word that a position touches.
    (∀ position line, (lines text.toList)[position.line]? = some line →
      ∃ word start stop,
        start = backOver isLookupPart (encode line) (columnBytes position.character line) ∧
        stop = forwardOver isLookupPart (encode line) (columnBytes position.character line) ∧
        Slice line start stop word ∧
        word? text position = if start < stop then some (String.ofList word) else none) ∧
    -- The beginning of a line that completion looks at.
    ∀ snapshot : Snapshot, snapshot.text = text → ∀ position, ∃ line before,
      line = (lines text.toList).getD position.line [] ∧
      Slice line 0 (columnBytes position.character line) before ∧
      completions? snapshot position = completionsAfter? snapshot before := by
  refine ⟨fun qualifier found hfound => Symbol.slices_of_mem_findAll hfound qualifier,
    fun line found hfound => FunctionLine.slice_of_mem_head? hfound,
    CallSite.slices_at_cursor text, fun position line hline => slice_word_at hline, ?_⟩
  rintro snapshot rfl position
  exact slice_before_column snapshot position

end Query

end LanguageServer
