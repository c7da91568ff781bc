import LanguageServer.Proofs.Document.Offset
import LanguageServer.Proofs.Source.Lexer
import LanguageServer.Proofs.Source.OpenLiteral

/-!
# Scrubbing the text before a cursor

Where only the text before a cursor is of interest, only that text is scrubbed.  The scan of a line
looks ahead, though: whether a quote opens a literal depends on the rest of the line, and so does
whether a slash begins a comment.  A cut can therefore change what is seen before it.

It does so in three places only: in a literal that is closed behind the cut, between the two slashes
of a comment, and between a carriage return and its line feed.  At every other boundary (`CleanCut`)
the scrubbed beginning of a text is the beginning of the scrubbed text.  In the three places it
depends: the contents that come into sight may be blanks anyway, and a carriage return that has lost
its line feed is blanked only by a comment.  `HarmlessCut` says which cuts change nothing, and
`scrub_take_iff_harmlessCut` that there are no others.

A cut touches one line, and on this line one part.  So the argument is about the parts of a line
(`Lexes.take_iff`), and what is left for the text is to find the line.
-/

namespace LanguageServer.Source

open Text

/-! ## What is seen of a line -/

/-- The bytes of the part after scrubbing. -/
def Part.sight : Part → List UInt8
  | code b => [b]
  | literal contents =>
    '"'.toUInt8 :: (List.replicate contents.length ' '.toUInt8 ++ ['"'.toUInt8])
  | comment text => List.replicate (text.length + 2) ' '.toUInt8
  | unclosed text => '"'.toUInt8 :: text

lemma map_visibleByte_code (bs : List UInt8) : (bs.map (·, Mark.code)).map visibleByte = bs := by
  rw [List.map_map]
  exact List.map_id bs

lemma map_visibleByte_hidden {mark : Mark} (hmark : mark ≠ .code) (bs : List UInt8) :
    (bs.map (·, mark)).map visibleByte = List.replicate bs.length ' '.toUInt8 := by
  have hbyte : visibleByte ∘ (·, mark) = fun _ => ' '.toUInt8 := by
    funext b
    exact if_neg hmark
  rw [List.map_map, hbyte, List.map_const']

lemma Part.map_visibleByte_marks (part : Part) : part.marks.map visibleByte = part.sight := by
  cases part with
  | code b => rfl
  | literal contents =>
    rw [marks, List.map_cons, List.map_append, map_visibleByte_hidden (by decide)]
    rfl
  | comment text => exact map_visibleByte_hidden (by decide) _
  | unclosed text => exact map_visibleByte_code _

lemma encode_scrubLine {line : List Char} {parts : List Part} (h : Lexes (encode line) parts) :
    encode (scrubLine line) = parts.flatMap Part.sight := by
  obtain ⟨others, hothers, hmarks⟩ := exists_lexes line
  obtain rfl := h.unique hothers
  rw [← flatMap_visible_markLine, ← map_visibleByte_encodeMarked, hmarks, List.map_flatMap]
  simp only [Part.map_visibleByte_marks]

lemma length_encode_scrubLine (line : List Char) :
    (encode (scrubLine line)).length = byteLength line := by
  rw [length_encode, ← flatMap_visible_markLine, byteLength_flatMap_visible, map_fst_markLine]

lemma Part.length_sight (part : Part) : part.sight.length = part.bytes.length := by
  cases part <;> simp [sight, bytes]

/-! ## Cuts of a line -/

/-- What is seen of a part does not change when the part is cut behind a number of its bytes: no
comment is left with its first slash only, and the contents of a literal that come into sight are
blanks. -/
def Part.Keeps : Part → Nat → Prop
  | literal contents, n =>
    0 < n → n < contents.length + 2 → ∀ b ∈ contents.take (n - 1), b = ' '.toUInt8
  | comment _, n => n ≠ 1
  | _, _ => True

/-- What is seen of the parts does not change when they are cut at the offset. -/
def Keeps (parts : List Part) (offset : Nat) : Prop :=
  ∀ front part back, parts = front ++ part :: back → offsetAfter front ≤ offset →
    part.Keeps (offset - offsetAfter front)

lemma Part.keeps_zero (part : Part) : part.Keeps 0 := by
  cases part <;> simp [Keeps]

lemma Part.keeps_of_length_le (part : Part) {n : Nat} (h : part.bytes.length ≤ n) :
    part.Keeps n := by
  cases part with
  | code b => trivial
  | literal contents =>
    rw [bytes, List.length_cons, List.length_append, List.length_singleton] at h
    exact fun _ hlt => absurd hlt (by omega)
  | comment text =>
    rw [bytes, List.length_cons, List.length_cons] at h
    exact fun hone => by omega
  | unclosed text => trivial

lemma keeps_nil (offset : Nat) : Keeps [] offset := by
  rintro front part back h
  simp at h

lemma keeps_cons {part : Part} {parts : List Part} {offset : Nat} :
    Keeps (part :: parts) offset ↔
      part.Keeps offset ∧
        (part.bytes.length ≤ offset → Keeps parts (offset - part.bytes.length)) := by
  constructor
  · refine fun h => ⟨h [] part parts rfl (Nat.zero_le _), ?_⟩
    rintro hle front other back rfl hfront
    have hoffset := offsetAfter_cons part front
    have hother := h (part :: front) other back rfl (by omega)
    rwa [hoffset, ← Nat.sub_sub] at hother
  · rintro ⟨hpart, hrest⟩ front other back hparts hfront
    cases front with
    | nil =>
      obtain ⟨rfl, -⟩ := List.cons.inj hparts
      exact hpart
    | cons first front =>
      obtain ⟨rfl, rfl⟩ := List.cons.inj hparts
      rw [offsetAfter_cons] at hfront ⊢
      rw [← Nat.sub_sub]
      exact hrest (by omega) front other back rfl (by omega)

lemma keeps_zero (parts : List Part) : Keeps parts 0 := by
  rintro front part back - -
  rw [Nat.zero_sub]
  exact part.keeps_zero

lemma keeps_singleton {part : Part} {offset : Nat} : Keeps [part] offset ↔ part.Keeps offset := by
  rw [keeps_cons]
  exact and_iff_left fun _ => keeps_nil _

lemma Closed.append {bs : List UInt8} (h : Closed bs) (more : List UInt8) :
    Closed (bs ++ more) := by
  obtain ⟨contents, rest, hcontents, rfl⟩ := h
  exact ⟨contents, rest ++ more, hcontents, by rw [List.append_assoc, List.cons_append]⟩

lemma Closed.of_concat {bs : List UInt8} {b : UInt8} (hb : b ≠ '"'.toUInt8)
    (h : Closed (bs ++ [b])) : Closed bs := by
  obtain ⟨contents, rest, hcontents, hbytes⟩ := h
  rcases List.eq_nil_or_concat rest with rfl | ⟨more, last, rfl⟩
  · exact absurd (List.append_inj' hbytes rfl).2 (by simpa using hb)
  · rw [List.concat_eq_append, ← List.cons_append, ← List.append_assoc] at hbytes
    exact ⟨contents, more, hcontents, (List.append_inj' hbytes rfl).1⟩

lemma Contents.not_closed {contents : List UInt8} (h : Contents contents) : ¬ Closed contents := by
  induction h with
  | nil => exact not_closed_nil
  | plain hquote hescape _ ih => rwa [closed_cons hquote hescape]
  | escape b _ ih =>
    rw [closed_escape_iff]
    rintro ⟨_, _, hrest, hclosed⟩
    obtain ⟨-, rfl⟩ := List.cons.inj hrest
    exact ih hclosed

lemma Contents.not_closed_take {contents : List UInt8} (h : Contents contents) (n : Nat) :
    ¬ Closed (contents.take n) := fun hclosed =>
  h.not_closed (by simpa using hclosed.append (contents.drop n))

/-- A cut behind the first part is a cut of the other parts. -/
lemma sight_cons_iff {part : Part} {before parts : List Part} {n : Nat}
    (hpart : part.Keeps (part.bytes.length + n))
    (h : before.flatMap Part.sight = (parts.flatMap Part.sight).take n ↔ Keeps parts n) :
    (part :: before).flatMap Part.sight =
        ((part :: parts).flatMap Part.sight).take (part.bytes.length + n) ↔
      Keeps (part :: parts) (part.bytes.length + n) := by
  rw [List.flatMap_cons, List.flatMap_cons, ← part.length_sight, List.take_length_add_append,
    List.append_right_inj, h, part.length_sight, keeps_cons, Nat.add_sub_cancel_left]
  exact ⟨fun hrest => ⟨hpart, fun _ => hrest⟩, fun hrest => hrest.2 (Nat.le_add_right _ _)⟩

/-- A cut in a literal leaves it unclosed and brings into sight what stands in it before the cut. -/
lemma Contents.take_iff {contents : List UInt8} (h : Contents contents) {n : Nat}
    (hn : n < contents.length + 1) (bs : List UInt8) (parts : List Part) :
    ∃ before, Lexes (('"'.toUInt8 :: (contents ++ '"'.toUInt8 :: bs)).take (n + 1)) before ∧
      (before.flatMap Part.sight =
          ((Part.literal contents :: parts).flatMap Part.sight).take (n + 1) ↔
        Keeps (.literal contents :: parts) (n + 1)) := by
  have hlength : (Part.literal contents).bytes.length = contents.length + 2 := by
    simp [Part.bytes]
  have hbytes : ('"'.toUInt8 :: (contents ++ '"'.toUInt8 :: bs)).take (n + 1) =
      '"'.toUInt8 :: contents.take n := by
    rw [List.take_succ_cons, List.take_append_of_le_length (Nat.le_of_lt_succ hn)]
  have hseen : ((Part.literal contents :: parts).flatMap Part.sight).take (n + 1) =
      '"'.toUInt8 :: List.replicate (contents.take n).length ' '.toUInt8 := by
    rw [List.flatMap_cons, Part.sight, List.cons_append, List.append_assoc, List.take_succ_cons,
      List.take_append_of_le_length (by simp; omega), List.take_replicate, List.length_take]
  rw [hbytes, hseen, keeps_cons]
  refine ⟨[.unclosed (contents.take n)], .unclosed (h.not_closed_take n), ?_⟩
  rw [List.flatMap_singleton, Part.sight, List.cons_inj_right, List.eq_replicate_iff]
  constructor
  · rintro ⟨-, hblank⟩
    exact ⟨fun _ _ => hblank, fun hle => by omega⟩
  · rintro ⟨hblank, -⟩
    exact ⟨rfl, hblank n.succ_pos (Nat.succ_lt_succ hn)⟩

/-- **Which cuts of a line can be seen.**  The beginning of a line is a line again.  What is seen of
it is the beginning of what is seen of the whole line, exactly if every part keeps its sight. -/
lemma Lexes.take_iff {bs : List UInt8} {parts : List Part} (h : Lexes bs parts) (offset : Nat) :
    ∃ before, Lexes (bs.take offset) before ∧
      (before.flatMap Part.sight = (parts.flatMap Part.sight).take offset ↔
        Keeps parts offset) := by
  -- A cut at the beginning leaves nothing; otherwise it cuts the first part or lies behind it.
  induction h generalizing offset with
  | nil => exact ⟨[], by simpa using Lexes.nil, iff_of_true (by simp) (keeps_nil _)⟩
  | comment text =>
    rw [keeps_singleton, List.flatMap_singleton]
    match offset with
    | 0 => exact ⟨[], .nil, iff_of_true rfl (Part.keeps_zero _)⟩
    | 1 =>
      refine ⟨[.code '/'.toUInt8], .code (by decide) (by simp) .nil, iff_of_false ?_ (· rfl)⟩
      exact fun hseen => absurd (List.cons.inj hseen).1 (by decide)
    | n + 2 =>
      refine ⟨[.comment (text.take n)], .comment _, iff_of_true ?_ (by simp [Part.Keeps])⟩
      simp [Part.sight, Nat.add_min_add_right]
  | @literal contents bs parts hcontents _ ih =>
    have hlength : (Part.literal contents).bytes.length = contents.length + 2 := by
      simp [Part.bytes]
    rcases Nat.lt_or_ge offset (contents.length + 2) with hinside | hbehind
    · cases offset with
      | zero => exact ⟨[], .nil, iff_of_true rfl (keeps_zero _)⟩
      | succ n => exact hcontents.take_iff (Nat.lt_of_succ_lt_succ hinside) bs parts
    · obtain ⟨n, rfl⟩ := Nat.exists_eq_add_of_le hbehind
      obtain ⟨before, hbefore, hiff⟩ := ih n
      have hbytes :
          ('"'.toUInt8 :: (contents ++ '"'.toUInt8 :: bs)).take (contents.length + 2 + n) =
            '"'.toUInt8 :: (contents ++ '"'.toUInt8 :: bs.take n) := by
        have hpart := @List.take_length_add_append _ (Part.literal contents).bytes bs n
        simpa [hlength, Part.bytes] using hpart
      rw [hbytes, ← hlength]
      refine ⟨.literal contents :: before, .literal hcontents hbefore, sight_cons_iff ?_ hiff⟩
      exact Part.keeps_of_length_le _ (Nat.le_add_right _ _)
  | @unclosed text hopen =>
    rw [keeps_singleton, List.flatMap_singleton]
    cases offset with
    | zero => exact ⟨[], .nil, iff_of_true rfl (Part.keeps_zero _)⟩
    | succ n =>
      have hcut : ¬ Closed (text.take n) := fun hclosed =>
        hopen (by simpa using hclosed.append (text.drop n))
      exact ⟨[.unclosed (text.take n)], .unclosed hcut, iff_of_true (by simp [Part.sight]) trivial⟩
  | @code b bs parts hquote hcomment _ ih =>
    cases offset with
    | zero => exact ⟨[], .nil, iff_of_true rfl (keeps_zero _)⟩
    | succ n =>
      obtain ⟨before, hbefore, hiff⟩ := ih n
      refine ⟨.code b :: before, .code hquote (fun hslash hnext => hcomment hslash ?_) hbefore, ?_⟩
      · cases n with
        | zero => cases hnext
        | succ n => rwa [List.head?_take, if_neg n.succ_ne_zero] at hnext
      · rw [Nat.add_comm]
        exact sight_cons_iff (show (Part.code b).Keeps (1 + n) from trivial) hiff

/-- A byte that is added to a line is seen at its end, exactly if no comment takes it. -/
lemma Lexes.concat_iff {bs : List UInt8} {parts : List Part} (h : Lexes bs parts) {b : UInt8}
    (hquote : b ≠ '"'.toUInt8) (hslash : b ≠ '/'.toUInt8) (hspace : b ≠ ' '.toUInt8) :
    ∃ after, Lexes (bs ++ [b]) after ∧
      (after.flatMap Part.sight = parts.flatMap Part.sight ++ [b] ↔
        ∀ text, .comment text ∉ parts) := by
  induction h with
  | nil => exact ⟨[.code b], .code hquote (by simp) .nil, iff_of_true rfl (by simp)⟩
  | comment text =>
    refine ⟨[.comment (text ++ [b])], .comment _, iff_of_false (fun hseen => ?_) (by simp)⟩
    have hmem : b ∈ (Part.comment (text ++ [b])).sight := by
      rw [List.flatMap_singleton] at hseen
      rw [hseen]
      exact List.mem_append_right _ List.mem_cons_self
    exact hspace (List.eq_of_mem_replicate hmem)
  | @literal contents bs parts hcontents _ ih =>
    obtain ⟨after, hafter, hiff⟩ := ih
    refine ⟨.literal contents :: after, ?_, ?_⟩
    · rw [List.cons_append, List.append_assoc, List.cons_append]
      exact .literal hcontents hafter
    · simp [hiff]
  | @unclosed text hopen =>
    refine ⟨[.unclosed (text ++ [b])], .unclosed ?_, iff_of_true (by simp [Part.sight]) (by simp)⟩
    exact fun hclosed => hopen (hclosed.of_concat hquote)
  | @code first bs parts hquote' hcomment _ ih =>
    obtain ⟨after, hafter, hiff⟩ := ih
    refine ⟨.code first :: after, .code hquote' (fun hfirst hnext => ?_) hafter, ?_⟩
    · cases bs with
      | nil => exact hslash (Option.some.inj hnext)
      | cons next bs => exact hcomment hfirst hnext
    · simp [hiff]

lemma scrubLine_take_iff {lead more : List Char} {parts : List Part}
    (h : Lexes (encode (lead ++ more)) parts) :
    encode (scrubLine lead) = (encode (scrubLine (lead ++ more))).take (byteLength lead) ↔
      Keeps parts (byteLength lead) := by
  obtain ⟨before, hbefore, hiff⟩ := h.take_iff (byteLength lead)
  rw [encode_append, ← length_encode lead, List.take_left] at hbefore
  rw [encode_scrubLine h, encode_scrubLine hbefore, hiff]

lemma scrubLine_return_iff {line : List Char} {parts : List Part} (h : Lexes (encode line) parts) :
    encode (scrubLine (line ++ ['\r'])) = encode (scrubLine line) ++ ['\r'.toUInt8] ↔
      ∀ text, .comment text ∉ parts := by
  obtain ⟨after, hafter, hiff⟩ :=
    h.concat_iff (b := '\r'.toUInt8) (by decide) (by decide) (by decide)
  have hline : encode (line ++ ['\r']) = encode line ++ ['\r'.toUInt8] := by
    rw [encode_append, encode_cons_of_lt (by decide), encode_nil]
  rw [← hline] at hafter
  rw [encode_scrubLine h, encode_scrubLine hafter, hiff]

/-! ## Cuts of a text -/

lemma Lexes.flatMap_bytes {bs : List UInt8} {parts : List Part} (h : Lexes bs parts) :
    parts.flatMap Part.bytes = bs := by
  induction h with
  | nil => rfl
  | comment text => exact List.flatMap_singleton _ _
  | literal _ _ ih => simp [Part.bytes, ih]
  | unclosed _ => exact List.flatMap_singleton _ _
  | code _ _ _ ih => rw [List.flatMap_cons, ih]; rfl

lemma Lexes.length_eq {bs : List UInt8} {front back : List Part} {part : Part}
    (h : Lexes bs (front ++ part :: back)) :
    bs.length = offsetAfter front + (part.bytes.length + offsetAfter back) := by
  rw [← h.flatMap_bytes, List.flatMap_append, List.length_append, ← offsetAfter_cons]
  rfl

/-- The part stands on the query line with the number, and begins at the byte offset of the text. -/
def StandsOn (text : List Char) (number : Nat) (part : Part) (start : Nat) : Prop :=
  ∃ line front back, (lines text)[number]? = some line ∧
    Lexes (encode line) (front ++ part :: back) ∧
    start = byteLength (beforeLine number text) + offsetAfter front

/-- The cut lies in no closed literal, not between the slashes of a comment and not between a
carriage return and its line feed. -/
structure CleanCut (text : List Char) (offset : Nat) : Prop where
  literal : ∀ number contents start, StandsOn text number (.literal contents) start →
    ¬ (start < offset ∧ offset < start + contents.length + 2)
  comment : ∀ number rest start, StandsOn text number (.comment rest) start → offset ≠ start + 1
  lineEnd : ∀ front back, text = front ++ '\r' :: '\n' :: back → offset ≠ byteLength front + 1

/-- The cut changes nothing of what is seen of a part, and where it takes the line feed from a
carriage return, no comment stands before the two. -/
structure HarmlessCut (text : List Char) (offset : Nat) : Prop where
  part : ∀ number part start, StandsOn text number part start → start ≤ offset →
    part.Keeps (offset - start)
  lineEnd : ∀ front back, text = front ++ '\r' :: '\n' :: back → offset = byteLength front + 1 →
    ∀ rest start, ¬ StandsOn text (lineFeeds front) (.comment rest) start

lemma CleanCut.harmless {text : List Char} {offset : Nat} (h : CleanCut text offset) :
    HarmlessCut text offset where
  part number part start hpart hle := by
    cases part with
    | code b => trivial
    | literal contents =>
      intro hfrom hto
      exact absurd ⟨by omega, by omega⟩ (h.literal number contents start hpart)
    | comment rest =>
      intro hone
      exact h.comment number rest start hpart (by omega)
    | unclosed rest => trivial
  lineEnd front back htext hoffset := absurd hoffset (h.lineEnd front back htext)

variable {text : List Char} {number : Nat} {line : List Char}

lemma exists_beforeLine_succ (hline : (lines text)[number]? = some line) :
    ∃ terminator, beforeLine (number + 1) text = beforeLine number text ++ line ++ terminator := by
  rw [lines, List.getElem?_map, Option.map_eq_some_iff] at hline
  obtain ⟨piece, hpiece, rfl⟩ := hline
  refine ⟨(splitTerminator piece).2, ?_⟩
  rw [List.append_assoc, splitTerminator_append, beforeLine, List.take_add_one, hpiece,
    Option.toList_some, List.flatten_concat, beforeLine]

lemma StandsOn.bounds {part : Part} {start : Nat} (h : StandsOn text number part start)
    (hline : (lines text)[number]? = some line) :
    byteLength (beforeLine number text) ≤ start ∧
      start + part.bytes.length ≤ byteLength (beforeLine number text) + byteLength line := by
  obtain ⟨line', front, back, hline', hlexes, rfl⟩ := h
  obtain rfl : line = line' := Option.some.inj (hline.symm.trans hline')
  have hlength := hlexes.length_eq
  rw [length_encode] at hlength
  omega

lemma StandsOn.keeps {part : Part} {start offset : Nat} (h : StandsOn text number part start)
    (hoffset : byteLength (beforeLine (number + 1) text) ≤ offset ∨
      offset ≤ byteLength (beforeLine number text)) : part.Keeps (offset - start) := by
  obtain ⟨line, _, _, hline, -⟩ := id h
  obtain ⟨hfrom, hto⟩ := h.bounds hline
  obtain ⟨terminator, hnext⟩ := exists_beforeLine_succ hline
  rw [hnext, byteLength_append, byteLength_append] at hoffset
  rcases hoffset with hbehind | hbefore
  · exact part.keeps_of_length_le (by omega)
  · rw [Nat.sub_eq_zero_of_le (by omega)]
    exact part.keeps_zero

lemma Lexes.keeps_of_length_le {bs : List UInt8} {parts : List Part} (h : Lexes bs parts)
    {offset : Nat} (hle : bs.length ≤ offset) : Keeps parts offset := by
  rintro front part back rfl hfront
  have hlength := h.length_eq
  exact part.keeps_of_length_le (by omega)

/-- A cut on a line is up to the parts of the line. -/
lemma forall_standsOn_iff {parts : List Part} {offset : Nat}
    (hline : (lines text)[number]? = some line) (hparts : Lexes (encode line) parts)
    (hfrom : byteLength (beforeLine number text) ≤ offset)
    (hto : offset ≤ byteLength (beforeLine (number + 1) text)) :
    (∀ number part start, StandsOn text number part start → start ≤ offset →
        part.Keeps (offset - start)) ↔
      Keeps parts (offset - byteLength (beforeLine number text)) := by
  constructor
  · rintro h front part back rfl hfront
    rw [Nat.sub_sub]
    exact h number part _ ⟨line, front, back, hline, hparts, rfl⟩ (by omega)
  · intro h other part start hpart hle
    rcases Nat.lt_trichotomy other number with hlt | rfl | hgt
    · exact hpart.keeps (Or.inl ((Position.byteLength_beforeLine_mono hlt text).trans hfrom))
    · obtain ⟨line', front, back, hline', hlexes, rfl⟩ := hpart
      obtain rfl : line = line' := Option.some.inj (hline.symm.trans hline')
      obtain rfl := hparts.unique hlexes
      have hkeeps := h front part back rfl (by omega)
      rwa [Nat.sub_sub] at hkeeps
    · exact hpart.keeps (Or.inr (hto.trans (Position.byteLength_beforeLine_mono hgt text)))

section Place

variable {head lead back : List Char}

lemma beforeLine_append (hhead : Ended head) (rest : List Char) :
    beforeLine (lineFeeds head) (head ++ rest) = head := by
  rw [beforeLine, pieces_append hhead, ← length_pieces hhead, List.take_left, flatten_pieces]

lemma beforeLine_return (front back : List Char) :
    beforeLine (lineFeeds front + 1) (front ++ '\r' :: '\n' :: back) = front ++ ['\r', '\n'] := by
  have hended : Ended (front ++ ['\r', '\n']) := by simp [Ended]
  have hfeeds : lineFeeds (front ++ ['\r', '\n']) = lineFeeds front + 1 := by simp [lineFeeds]
  have hnext := beforeLine_append hended back
  rwa [hfeeds, List.append_assoc] at hnext

lemma getElem?_lines_append (hhead : Ended head) (rest : List Char) :
    (lines (head ++ rest))[lineFeeds head]? = (lines rest)[0]? := by
  rw [lines_append hhead, ← length_lines hhead, List.getElem?_append_right (Nat.le_refl _),
    Nat.sub_self]

/-- Scrubbing begins anew on the line of the cut. -/
lemma scrub_take_iff (hhead : Ended head) (hlead : '\n' ∉ lead) :
    encode (scrub (head ++ lead)) =
        (encode (scrub (head ++ (lead ++ back)))).take (byteLength (head ++ lead)) ↔
      encode (scrubLine lead) = (encode (scrub (lead ++ back))).take (byteLength lead) := by
  have hlength : (encode (scrub head)).length = byteLength head := by
    rw [length_encode, (masks_scrub head).byteLength_eq]
  rw [scrub_append hhead, scrub_append hhead, scrub_line hlead, encode_append, encode_append,
    byteLength_append, ← hlength, List.take_length_add_append, List.append_right_inj]

/-- The line of a cut that does not lie between a carriage return and its line feed goes on behind
the cut. -/
lemma exists_line_of_cut (hlead : '\n' ∉ lead) (hne : lead ≠ [])
    (hreturn : lead.getLast? = some '\r' → back.head? ≠ some '\n') :
    ∃ more rest, (lines (lead ++ back))[0]? = some (lead ++ more) ∧
      scrub (lead ++ back) = scrubLine (lead ++ more) ++ rest := by
  by_cases hfeed : '\n' ∈ back
  · obtain ⟨body, rest, rfl, hbody⟩ := List.eq_append_cons_of_mem hfeed
    rw [← List.append_assoc]
    by_cases hlast : (lead ++ body).getLast? = some '\r'
    · rcases List.eq_nil_or_concat body with rfl | ⟨content, last, rfl⟩
      · rw [List.append_nil] at hlast
        exact absurd rfl (hreturn hlast)
      · obtain rfl : last = '\r' := by simpa using hlast
        have hcontent : '\n' ∉ lead ++ content := by simp_all
        have htext : lead ++ content.concat '\r' ++ '\n' :: rest =
            (lead ++ content) ++ '\r' :: '\n' :: rest := by simp
        rw [htext, lines_returnFeed hcontent, scrub_returnFeed hcontent]
        exact ⟨content, _, rfl, rfl⟩
    · have hcontent : '\n' ∉ lead ++ body := by simp_all
      rw [lines_feed hcontent hlast, scrub_feed hcontent hlast]
      exact ⟨body, _, rfl, rfl⟩
  · have hcontent : '\n' ∉ lead ++ back := by simp_all
    have hne' : lead ++ back ≠ [] := by simp [hne]
    rw [lines_unended hcontent hne', scrub_unended hcontent hne']
    exact ⟨back, [], rfl, (List.append_nil _).symm⟩

/-- What is seen before a cut between a carriage return and its line feed. -/
lemma scrub_take_return (hlead : '\n' ∉ lead) :
    (encode (scrub (lead ++ ['\r'] ++ '\n' :: back))).take (byteLength (lead ++ ['\r'])) =
      encode (scrubLine lead) ++ ['\r'.toUInt8] := by
  have htext : lead ++ ['\r'] ++ '\n' :: back = lead ++ '\r' :: '\n' :: back := by
    rw [List.append_assoc]
    rfl
  have hlength : byteLength (lead ++ ['\r']) = (encode (scrubLine lead)).length + 1 := by
    rw [byteLength_append, length_encode_scrubLine]
    rfl
  rw [htext, scrub_returnFeed hlead, encode_append, encode_cons_of_lt (by decide), hlength,
    List.take_length_add_append, List.take_succ_cons, List.take_zero]

lemma append_inj_of_byteLength_eq {front back front' back' : List Char}
    (htext : front ++ back = front' ++ back') (hlength : byteLength front = byteLength front') :
    front = front' ∧ back = back' := by
  have hfront : front = front' := by
    rw [← takeBytes_byteLength_append front back, htext, hlength, takeBytes_byteLength_append]
  subst hfront
  exact ⟨rfl, List.append_cancel_left htext⟩

lemma append_inj_return {front back front' back' : List Char}
    (htext : front ++ back = front' ++ '\r' :: '\n' :: back')
    (hoffset : byteLength front = byteLength front' + 1) :
    front = front' ++ ['\r'] ∧ back = '\n' :: back' := by
  refine append_inj_of_byteLength_eq ?_ ?_
  · rw [htext, List.append_assoc]
    rfl
  · rw [byteLength_append, hoffset]
    rfl

/-- A cut at the beginning of a line changes nothing. -/
lemma harmlessCut_of_ended (hhead : Ended head) (back : List Char) :
    HarmlessCut (head ++ back) (byteLength head) where
  part number part start hpart _ := by
    have hbefore := beforeLine_append hhead back
    refine hpart.keeps ?_
    rcases Nat.lt_or_ge number (lineFeeds head) with hlt | hge
    · have hle := Position.byteLength_beforeLine_mono hlt (head ++ back)
      rw [hbefore] at hle
      exact Or.inl hle
    · have hle := Position.byteLength_beforeLine_mono hge (head ++ back)
      rw [hbefore] at hle
      exact Or.inr hle
  lineEnd front rest htext hoffset := by
    obtain ⟨rfl, -⟩ := append_inj_return htext hoffset
    exact absurd (hhead '\r' (by simp)) (by decide)

/-- A cut within a line is harmless if the parts of the line keep what is seen of them. -/
lemma harmlessCut_line_iff {more : List Char} {parts : List Part} (hhead : Ended head)
    (hne : lead ≠ []) (hreturn : lead.getLast? = some '\r' → back.head? ≠ some '\n')
    (hline : (lines (lead ++ back))[0]? = some (lead ++ more))
    (hparts : Lexes (encode (lead ++ more)) parts) :
    HarmlessCut (head ++ (lead ++ back)) (byteLength (head ++ lead)) ↔
      Keeps parts (byteLength lead) := by
  rw [← getElem?_lines_append hhead] at hline
  obtain ⟨terminator, hnext⟩ := exists_beforeLine_succ hline
  have hbefore := beforeLine_append hhead (lead ++ back)
  have hto : byteLength (head ++ lead) ≤
      byteLength (beforeLine (lineFeeds head + 1) (head ++ (lead ++ back))) := by
    simp only [hnext, hbefore, byteLength_append]
    omega
  have hpart := forall_standsOn_iff hline hparts (by simp [hbefore]) hto
  rw [hbefore, byteLength_append, Nat.add_sub_cancel_left, ← byteLength_append] at hpart
  rw [← hpart]
  refine ⟨HarmlessCut.part, fun h => ⟨h, fun front rest htext hoffset => ?_⟩⟩
  rw [← List.append_assoc] at htext
  obtain ⟨hfront, hback⟩ := append_inj_return htext hoffset
  have hlast : lead.getLast? = some '\r' := by
    rw [← List.getLast?_append_of_ne_nil head hne, hfront, List.getLast?_concat]
  exact absurd (by rw [hback]; rfl) (hreturn hlast)

/-- A cut between a carriage return and its line feed is harmless if there is no comment on the
line. -/
lemma harmlessCut_return_iff {parts : List Part} (hhead : Ended head) (hlead : '\n' ∉ lead)
    (hparts : Lexes (encode lead) parts) :
    HarmlessCut (head ++ (lead ++ ['\r'] ++ '\n' :: back))
        (byteLength (head ++ (lead ++ ['\r']))) ↔ ∀ rest, .comment rest ∉ parts := by
  have htext : head ++ (lead ++ ['\r'] ++ '\n' :: back) = head ++ lead ++ '\r' :: '\n' :: back := by
    simp
  have hoffset : byteLength (head ++ (lead ++ ['\r'])) = byteLength (head ++ lead) + 1 := by
    rw [← List.append_assoc, byteLength_append]
    rfl
  have hfeeds : lineFeeds (head ++ lead) = lineFeeds head := by
    rw [lineFeeds, List.count_append, List.count_eq_zero.mpr hlead, Nat.add_zero, lineFeeds]
  have hbefore : beforeLine (lineFeeds (head ++ lead)) (head ++ lead ++ '\r' :: '\n' :: back) =
      head := by
    rw [hfeeds, List.append_assoc, beforeLine_append hhead]
  have hline : (lines (head ++ lead ++ '\r' :: '\n' :: back))[lineFeeds (head ++ lead)]? =
      some lead := by
    rw [hfeeds, List.append_assoc, getElem?_lines_append hhead, lines_returnFeed hlead]
    rfl
  rw [htext, hoffset]
  constructor
  · intro h rest hmem
    obtain ⟨front, after, rfl⟩ := List.append_of_mem hmem
    exact h.lineEnd _ _ rfl rfl rest _ ⟨lead, front, after, hline, hparts, rfl⟩
  · intro hnone
    have hto : byteLength (head ++ lead) + 1 ≤ byteLength
        (beforeLine (lineFeeds (head ++ lead) + 1) (head ++ lead ++ '\r' :: '\n' :: back)) := by
      rw [beforeLine_return, byteLength_append (head ++ lead)]
      exact Nat.add_le_add_left (by decide) _
    refine ⟨(forall_standsOn_iff hline hparts ?_ hto).mpr ?_, ?_⟩
    · rw [hbefore, byteLength_append]
      omega
    · refine hparts.keeps_of_length_le ?_
      rw [hbefore, length_encode, byteLength_append]
      omega
    · rintro front rest hfront hsame comment start ⟨line, before, after, hline', hlexes, -⟩
      obtain ⟨rfl, -⟩ := append_inj_of_byteLength_eq hfront (Nat.succ.inj hsame)
      obtain rfl : lead = line := Option.some.inj (hline.symm.trans hline')
      obtain rfl := hparts.unique hlexes
      exact hnone comment (List.mem_append_right _ List.mem_cons_self)

/-- **Scrubbing commutes with the harmless cuts, and with no others.** -/
lemma scrub_take_iff_harmlessCut (front back : List Char) :
    encode (scrub front) = (encode (scrub (front ++ back))).take (byteLength front) ↔
      HarmlessCut (front ++ back) (byteLength front) := by
  obtain ⟨head, hfront, hhead⟩ := exists_eq_append_lineLead front
  have hlead := lineFeed_notMem_lineLead front
  generalize lineLead front = lead at hfront hlead
  subst hfront
  rw [List.append_assoc, scrub_take_iff hhead hlead]
  by_cases hempty : lead = []
  · subst hempty
    rw [List.append_nil]
    exact iff_of_true rfl (harmlessCut_of_ended hhead back)
  · by_cases hreturn : lead.getLast? = some '\r' ∧ back.head? = some '\n'
    · obtain ⟨line, rfl⟩ := List.getLast?_eq_some_iff.mp hreturn.1
      obtain ⟨rest, rfl⟩ := List.head?_eq_some_iff.mp hreturn.2
      have hline : '\n' ∉ line := fun hmem => hlead (List.mem_append_left _ hmem)
      obtain ⟨parts, hparts, -⟩ := exists_lexes line
      rw [scrub_take_return hline, scrubLine_return_iff hparts,
        harmlessCut_return_iff hhead hline hparts]
    · have hreturn' : lead.getLast? = some '\r' → back.head? ≠ some '\n' :=
        fun hlast hfeed => hreturn ⟨hlast, hfeed⟩
      obtain ⟨more, rest, hline, hscrub⟩ := exists_line_of_cut hlead hempty hreturn'
      obtain ⟨parts, hparts, -⟩ := exists_lexes (lead ++ more)
      have hshort : byteLength lead ≤ (encode (scrubLine (lead ++ more))).length := by
        rw [length_encode_scrubLine, byteLength_append]
        exact Nat.le_add_right _ _
      rw [hscrub, encode_append, List.take_append_of_le_length hshort, scrubLine_take_iff hparts,
        harmlessCut_line_iff hhead hempty hreturn' hline hparts]

end Place

/-- **Scrubbing commutes with cutting.**  At a boundary that lies in no closed literal, not between
the slashes of a comment and not between a carriage return and its line feed, the scrubbed beginning
of a text is the beginning of the scrubbed text, byte for byte.  Precisely the harmless cuts have
this property. -/
theorem scrub_commutes_with_cut {text : List Char} {offset : Nat} (h : IsBoundary text offset) :
    (CleanCut text offset →
      encode (scrub (takeBytes offset text)) = (encode (scrub text)).take offset) ∧
    (encode (scrub (takeBytes offset text)) = (encode (scrub text)).take offset ↔
      HarmlessCut text offset) := by
  obtain ⟨front, back, rfl, rfl⟩ := isBoundary_iff.mp h
  rw [takeBytes_byteLength_append, scrub_take_iff_harmlessCut]
  exact ⟨CleanCut.harmless, Iff.rfl⟩

/-- A cut in a comment, behind a literal.  One byte into the comment, its first slash is seen. -/
theorem scrub_commutes_with_cut_in_comment :
    let text := "\"é\"//x\r\n".toList
    IsBoundary text 7 ∧ CleanCut text 7 ∧
      encode (scrub (takeBytes 7 text)) = (encode (scrub text)).take 7 ∧
      IsBoundary text 5 ∧ ¬ HarmlessCut text 5 := by
  intro text
  have hboundary : IsBoundary text 7 :=
    isBoundary_append ['"', 'é', '"', '/', '/', 'x'] ['\r', '\n']
  have hboundary' : IsBoundary text 5 :=
    isBoundary_append ['"', 'é', '"', '/'] ['/', 'x', '\r', '\n']
  have hparts : Lexes (encode ['"', 'é', '"', '/', '/', 'x'])
      [.literal (encode ['é']), .comment (encode ['x'])] :=
    .literal (.plain (by decide) (by decide) (.plain (by decide) (by decide) .nil)) (.comment _)
  have hstands : ∀ number part start, StandsOn text number part start →
      part = .literal (encode ['é']) ∧ start = 0 ∨ part = .comment (encode ['x']) ∧ start = 4 := by
    rintro number part start ⟨line, front, back, hline, hlexes, rfl⟩
    obtain ⟨rfl, rfl⟩ : number = 0 ∧ line = ['"', 'é', '"', '/', '/', 'x'] := by
      match number, hline with
      | 0, hline => exact ⟨rfl, (Option.some.inj hline).symm⟩
    have hrow := hparts.unique hlexes
    rcases front with _ | ⟨first, _ | ⟨second, front⟩⟩
    · obtain ⟨rfl, -⟩ := List.cons.inj hrow
      exact Or.inl ⟨rfl, rfl⟩
    · obtain ⟨hfirst, hrest⟩ := List.cons.inj hrow
      subst hfirst
      obtain ⟨rfl, -⟩ := List.cons.inj hrest
      exact Or.inr ⟨rfl, rfl⟩
    · simp at hrow
  have hclean : CleanCut text 7 := by
    constructor
    · intro number contents start hpart
      rcases hstands _ _ _ hpart with ⟨hsame, rfl⟩ | ⟨hsame, -⟩
      · rw [Part.literal.inj hsame]
        decide
      · cases hsame
    · intro number rest start hpart
      rcases hstands _ _ _ hpart with ⟨hsame, -⟩ | ⟨-, rfl⟩
      · cases hsame
      · decide
    · intro front back htext hoffset
      have hcut : ['"', 'é', '"', '/', '/', 'x'] ++ ['\r', '\n'] =
          front ++ '\r' :: '\n' :: back := htext
      exact absurd (append_inj_return hcut hoffset).2 (by simp)
  refine ⟨hboundary, hclean, (scrub_commutes_with_cut hboundary).1 hclean, hboundary', ?_⟩
  rw [← (scrub_commutes_with_cut hboundary').2]
  decide +kernel

end LanguageServer.Source
