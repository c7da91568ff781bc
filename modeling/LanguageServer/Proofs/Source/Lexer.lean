import LanguageServer.Proofs.Source.Marks
import LanguageServer.Proofs.Text.Bytes

/-!
# The literals and comments of a line

A line of source text is a row of parts: bytes of code, string literals, perhaps a comment that
takes the rest of the line, or a quote that opens no literal, after which the rest of the line is
plain text.  `Lexes` says which parts a line consists of, in terms of its bytes and from left to
right.  The contents of a literal (`Contents`) end at the first quote that no backslash takes along.

Every line has exactly one such row.  Scrubbing blanks the bytes that lie between the quotes of a
literal or in a comment, and no others (`scrubLine_eq_iff_blanks`).

The scan that scrubs a line goes by characters, the parts are made of bytes.  What reconciles them
is that a backslash takes a byte along and the scan a character: the further bytes of that character
lie above ASCII and are contents like any other (`closed_encode_iff`).
-/

namespace LanguageServer.Source

open Text

/-! ## Parts -/

/-- The bytes between the quotes of a literal: a backslash takes the next byte along, whatever it
is, and no other byte is a quote. -/
inductive Contents : List UInt8 → Prop where
  | nil : Contents []
  | plain {b : UInt8} {bs : List UInt8} (hquote : b ≠ '"'.toUInt8) (hescape : b ≠ '\\'.toUInt8)
      (rest : Contents bs) : Contents (b :: bs)
  | escape (b : UInt8) {bs : List UInt8} (rest : Contents bs) :
      Contents ('\\'.toUInt8 :: b :: bs)

/-- A literal whose contents begin here has a closing quote. -/
def Closed (bs : List UInt8) : Prop :=
  ∃ contents rest, Contents contents ∧ bs = contents ++ '"'.toUInt8 :: rest

/-- A part of a line. -/
inductive Part where
  | code (b : UInt8)
  /-- A closed literal, with what lies between its quotes. -/
  | literal (contents : List UInt8)
  /-- A comment, with what follows its two slashes. -/
  | comment (text : List UInt8)
  /-- A quote that no other quote closes, with what follows it. -/
  | unclosed (text : List UInt8)

namespace Part

/-- The bytes of the part. -/
def bytes : Part → List UInt8
  | code b => [b]
  | literal contents => '"'.toUInt8 :: (contents ++ ['"'.toUInt8])
  | comment text => '/'.toUInt8 :: '/'.toUInt8 :: text
  | unclosed text => '"'.toUInt8 :: text

/-- Is the byte at the place of the part out of sight: strictly between the two quotes of a literal,
or anywhere in a comment? -/
def Hides : Part → Nat → Prop
  | literal contents, i => 0 < i ∧ i < contents.length + 1
  | comment _, _ => True
  | _, _ => False

end Part

/-- The line, given by its bytes, consists of the parts. -/
inductive Lexes : List UInt8 → List Part → Prop where
  | nil : Lexes [] []
  | comment (text : List UInt8) : Lexes ('/'.toUInt8 :: '/'.toUInt8 :: text) [.comment text]
  | literal {contents bs : List UInt8} {parts : List Part} (hcontents : Contents contents)
      (rest : Lexes bs parts) :
      Lexes ('"'.toUInt8 :: (contents ++ '"'.toUInt8 :: bs)) (.literal contents :: parts)
  | unclosed {text : List UInt8} (hopen : ¬ Closed text) :
      Lexes ('"'.toUInt8 :: text) [.unclosed text]
  | code {b : UInt8} {bs : List UInt8} {parts : List Part} (hquote : b ≠ '"'.toUInt8)
      (hcomment : b = '/'.toUInt8 → bs.head? ≠ some '/'.toUInt8) (rest : Lexes bs parts) :
      Lexes (b :: bs) (.code b :: parts)

/-- The number of bytes that the parts take. -/
def offsetAfter (parts : List Part) : Nat :=
  (parts.flatMap Part.bytes).length

/-- The byte at the offset lies strictly between the quotes of a closed literal, or in a comment. -/
def Hidden (parts : List Part) (i : Nat) : Prop :=
  ∃ front part back, parts = front ++ part :: back ∧ offsetAfter front ≤ i ∧
    i < offsetAfter front + part.bytes.length ∧ part.Hides (i - offsetAfter front)

/-- The second row of bytes is the first one with spaces in place of what the parts hide. -/
structure Blanks (parts : List Part) (bytes out : List UInt8) : Prop where
  length_eq : out.length = bytes.length
  hidden : ∀ i < bytes.length, Hidden parts i → out[i]? = some ' '.toUInt8
  shown : ∀ i < bytes.length, ¬ Hidden parts i → out[i]? = bytes[i]?

/-! ## A line has one row of parts -/

lemma quote_ne_escape : '"'.toUInt8 ≠ '\\'.toUInt8 := by decide

lemma quote_ne_slash : '"'.toUInt8 ≠ '/'.toUInt8 := by decide

lemma Contents.cases {b : UInt8} {bs : List UInt8} (h : Contents (b :: bs)) :
    (b ≠ '"'.toUInt8 ∧ b ≠ '\\'.toUInt8 ∧ Contents bs) ∨
      (b = '\\'.toUInt8 ∧ ∃ c rest, bs = c :: rest ∧ Contents rest) := by
  generalize hbytes : b :: bs = bytes at h
  cases h with
  | nil => cases hbytes
  | plain hquote hescape rest =>
    obtain ⟨rfl, rfl⟩ := List.cons.inj hbytes
    exact Or.inl ⟨hquote, hescape, rest⟩
  | escape c rest =>
    obtain ⟨rfl, rfl⟩ := List.cons.inj hbytes
    exact Or.inr ⟨rfl, c, _, rfl, rest⟩

/-- A literal ends at one quote only. -/
lemma Contents.unique {contents contents' rest rest' : List UInt8} (h : Contents contents)
    (h' : Contents contents')
    (heq : contents ++ '"'.toUInt8 :: rest = contents' ++ '"'.toUInt8 :: rest') :
    contents = contents' ∧ rest = rest' := by
  induction h generalizing contents' with
  | nil =>
    cases contents' with
    | nil => exact ⟨rfl, (List.cons.inj heq).2⟩
    | cons b bs =>
      obtain ⟨rfl, -⟩ := List.cons.inj heq
      rcases h'.cases with ⟨hquote, -, -⟩ | ⟨hescape, -⟩
      · exact absurd rfl hquote
      · exact absurd hescape quote_ne_escape
  | @plain b bs hquote hescape _ ih =>
    cases contents' with
    | nil => exact absurd (List.cons.inj heq).1 hquote
    | cons b' bs' =>
      obtain ⟨rfl, htail⟩ := List.cons.inj heq
      rcases h'.cases with ⟨-, -, hrest⟩ | ⟨hescape', -⟩
      · obtain ⟨rfl, rfl⟩ := ih hrest htail
        exact ⟨rfl, rfl⟩
      · exact absurd hescape' hescape
  | @escape b bs _ ih =>
    cases contents' with
    | nil => exact absurd (List.cons.inj heq).1.symm quote_ne_escape
    | cons b' bs' =>
      obtain ⟨rfl, htail⟩ := List.cons.inj heq
      rcases h'.cases with ⟨-, hplain, -⟩ | ⟨-, c, more, rfl, hrest⟩
      · exact absurd rfl hplain
      · obtain ⟨rfl, hmore⟩ := List.cons.inj htail
        obtain ⟨rfl, rfl⟩ := ih hrest hmore
        exact ⟨rfl, rfl⟩

/-- What the first byte of a line can begin. -/
lemma Lexes.cases {b : UInt8} {bs : List UInt8} {parts : List Part} (h : Lexes (b :: bs) parts) :
    (∃ text, b = '/'.toUInt8 ∧ bs = '/'.toUInt8 :: text ∧ parts = [.comment text]) ∨
      (∃ contents rest others, b = '"'.toUInt8 ∧ bs = contents ++ '"'.toUInt8 :: rest ∧
        Contents contents ∧ Lexes rest others ∧ parts = .literal contents :: others) ∨
      (b = '"'.toUInt8 ∧ ¬ Closed bs ∧ parts = [.unclosed bs]) ∨
      ∃ others, b ≠ '"'.toUInt8 ∧ (b = '/'.toUInt8 → bs.head? ≠ some '/'.toUInt8) ∧
        Lexes bs others ∧ parts = .code b :: others := by
  generalize hbytes : b :: bs = bytes at h
  cases h with
  | nil => cases hbytes
  | comment text =>
    obtain ⟨rfl, rfl⟩ := List.cons.inj hbytes
    exact Or.inl ⟨text, rfl, rfl, rfl⟩
  | literal hcontents rest =>
    obtain ⟨rfl, rfl⟩ := List.cons.inj hbytes
    exact Or.inr (Or.inl ⟨_, _, _, rfl, rfl, hcontents, rest, rfl⟩)
  | unclosed hopen =>
    obtain ⟨rfl, rfl⟩ := List.cons.inj hbytes
    exact Or.inr (Or.inr (Or.inl ⟨rfl, hopen, rfl⟩))
  | code hquote hcomment rest =>
    obtain ⟨rfl, rfl⟩ := List.cons.inj hbytes
    exact Or.inr (Or.inr (Or.inr ⟨_, hquote, hcomment, rest, rfl⟩))

/-- **A line consists of one row of parts only.** -/
lemma Lexes.unique {bs : List UInt8} {parts parts' : List Part} (h : Lexes bs parts)
    (h' : Lexes bs parts') : parts = parts' := by
  induction h generalizing parts' with
  | nil =>
    generalize hbytes : ([] : List UInt8) = bytes at h'
    cases h' <;> first | rfl | cases hbytes
  | comment text =>
    rcases h'.cases with
      ⟨_, -, htext, rfl⟩ | ⟨_, _, _, hquote, -⟩ | ⟨hquote, -⟩ | ⟨_, -, hcomment, -⟩
    · rw [(List.cons.inj htext).2]
    · exact absurd hquote.symm quote_ne_slash
    · exact absurd hquote.symm quote_ne_slash
    · exact absurd rfl (hcomment rfl)
  | literal hcontents _ ih =>
    rcases h'.cases with
      ⟨_, hslash, -⟩ | ⟨contents, rest, others, -, hbytes, hcontents', hrest, rfl⟩ |
      ⟨-, hopen, -⟩ | ⟨_, hquote, -⟩
    · exact absurd hslash quote_ne_slash
    · obtain ⟨rfl, rfl⟩ := hcontents.unique hcontents' hbytes
      rw [ih hrest]
    · exact absurd ⟨_, _, hcontents, rfl⟩ hopen
    · exact absurd rfl hquote
  | unclosed hopen =>
    rcases h'.cases with ⟨_, hslash, -⟩ | ⟨contents, rest, _, -, hbytes, hcontents, -⟩ |
      ⟨-, -, rfl⟩ | ⟨_, hquote, -⟩
    · exact absurd hslash quote_ne_slash
    · exact absurd ⟨contents, rest, hcontents, hbytes⟩ hopen
    · rfl
    · exact absurd rfl hquote
  | code hquote hcomment _ ih =>
    rcases h'.cases with ⟨_, hslash, rfl, -⟩ | ⟨_, _, _, hquote', -⟩ | ⟨hquote', -⟩ |
      ⟨others, -, -, hrest, rfl⟩
    · exact absurd rfl (hcomment hslash)
    · exact absurd hquote' hquote
    · exact absurd hquote' hquote
    · rw [ih hrest]

/-! ## Literals by bytes and by characters -/

/-- The bytes are neither quotes nor backslashes. -/
def PlainBytes (bs : List UInt8) : Prop :=
  ∀ b ∈ bs, b ≠ '"'.toUInt8 ∧ b ≠ '\\'.toUInt8

lemma plainBytes_of_le {bs : List UInt8} (h : ∀ b ∈ bs, 0x80 ≤ b.toNat) : PlainBytes bs :=
  fun b hb => ⟨ne_toUInt8_of_le (h b hb) (by decide), ne_toUInt8_of_le (h b hb) (by decide)⟩

lemma plainBytes_utf8EncodeChar {c : Char} (hquote : c ≠ '"') (hescape : c ≠ '\\') :
    PlainBytes (String.utf8EncodeChar c) := by
  refine fun b hb => ⟨?_, ?_⟩
  · rintro rfl
    exact hquote ((toUInt8_mem_utf8EncodeChar_iff (by decide)).mp hb)
  · rintro rfl
    exact hescape ((toUInt8_mem_utf8EncodeChar_iff (by decide)).mp hb)

lemma Contents.append {front bs : List UInt8} (hfront : PlainBytes front) (h : Contents bs) :
    Contents (front ++ bs) := by
  induction front with
  | nil => exact h
  | cons b front ih =>
    obtain ⟨hb, hrest⟩ := List.forall_mem_cons.mp hfront
    exact .plain hb.1 hb.2 (ih hrest)

lemma not_closed_nil : ¬ Closed [] := by
  rintro ⟨contents, rest, -, h⟩
  simp at h

lemma closed_quote (bs : List UInt8) : Closed ('"'.toUInt8 :: bs) :=
  ⟨[], bs, .nil, rfl⟩

lemma closed_cons {b : UInt8} (hquote : b ≠ '"'.toUInt8) (hescape : b ≠ '\\'.toUInt8)
    (bs : List UInt8) : Closed (b :: bs) ↔ Closed bs := by
  constructor
  · rintro ⟨contents, rest, hcontents, heq⟩
    cases contents with
    | nil => exact absurd (List.cons.inj heq).1 hquote
    | cons b' contents =>
      obtain ⟨rfl, htail⟩ := List.cons.inj heq
      rcases hcontents.cases with ⟨-, -, hrest⟩ | ⟨hescape', -⟩
      · exact ⟨contents, rest, hrest, htail⟩
      · exact absurd hescape' hescape
  · rintro ⟨contents, rest, hcontents, rfl⟩
    exact ⟨b :: contents, rest, .plain hquote hescape hcontents, rfl⟩

lemma closed_append {front : List UInt8} (hfront : PlainBytes front) (bs : List UInt8) :
    Closed (front ++ bs) ↔ Closed bs := by
  induction front with
  | nil => rfl
  | cons b front ih =>
    obtain ⟨hb, hrest⟩ := List.forall_mem_cons.mp hfront
    rw [List.cons_append, closed_cons hb.1 hb.2, ih hrest]

lemma closed_escape_iff {bs : List UInt8} :
    Closed ('\\'.toUInt8 :: bs) ↔ ∃ b rest, bs = b :: rest ∧ Closed rest := by
  constructor
  · rintro ⟨contents, rest, hcontents, heq⟩
    cases contents with
    | nil => exact absurd (List.cons.inj heq).1.symm quote_ne_escape
    | cons b' contents =>
      obtain ⟨rfl, htail⟩ := List.cons.inj heq
      rcases hcontents.cases with ⟨-, hescape, -⟩ | ⟨-, b, more, rfl, hmore⟩
      · exact absurd rfl hescape
      · exact ⟨b, more ++ '"'.toUInt8 :: rest, htail, more, rest, hmore, rfl⟩
  · rintro ⟨b, _, rfl, contents, rest, hcontents, rfl⟩
    exact ⟨'\\'.toUInt8 :: b :: contents, rest, .escape b hcontents, rfl⟩

/-- **Bytes and characters agree on where a literal is closed.**  A backslash takes a byte along in
the one reading and a character in the other. -/
lemma closed_encode_iff (cs : List Char) : Closed (encode cs) ↔ closes cs = true := by
  fun_induction closes cs with
  | case1 => simp [not_closed_nil]
  | case2 c cs ih =>
    obtain ⟨b, more, hbytes, hmore⟩ := exists_utf8EncodeChar c
    have hencode : encode ('\\' :: c :: cs) = '\\'.toUInt8 :: b :: (more ++ encode cs) := by
      rw [encode_cons_of_lt (by decide), encode_cons, hbytes, List.cons_append]
    rw [hencode, closed_escape_iff, ← ih, ← closed_append (plainBytes_of_le hmore)]
    constructor
    · rintro ⟨_, _, hrest, hclosed⟩
      rwa [(List.cons.inj hrest).2]
    · exact fun hclosed => ⟨_, _, rfl, hclosed⟩
  | case3 c cs hlone ih =>
    by_cases hquote : c = '"'
    · subst hquote
      rw [encode_cons_of_lt (by decide)]
      simpa using closed_quote (encode cs)
    · by_cases hescape : c = '\\'
      · -- The backslash is the last character: it takes nothing along.
        cases cs with
        | nil =>
          subst hescape
          rw [encode_cons_of_lt (by decide), closed_escape_iff]
          simp [closes]
        | cons d cs => exact absurd rfl (hlone d cs hescape)
      · rw [encode_cons, closed_append (plainBytes_utf8EncodeChar hquote hescape), ih]
        simp [hquote]

/-- A literal that is closed is marked up to its closing quote. -/
lemma markFrom_literal {cs : List Char} (h : closes cs = true) :
    ∃ contents rest, cs = contents ++ '"' :: rest ∧ Contents (encode contents) ∧
      markFrom .literal cs = contents.map (·, .literal) ++ ('"', .code) :: markFrom .code rest := by
  fun_induction closes cs with
  | case1 => cases h
  | case2 c cs ih =>
    obtain ⟨contents, rest, rfl, hcontents, hmarks⟩ := ih h
    obtain ⟨b, more, hbytes, hmore⟩ := exists_utf8EncodeChar c
    refine ⟨'\\' :: c :: contents, rest, rfl, ?_, ?_⟩
    · rw [encode_cons_of_lt (by decide), encode_cons, hbytes, List.cons_append]
      exact .escape b (hcontents.append (plainBytes_of_le hmore))
    · rw [markFrom, hmarks]
      rfl
  | case3 c cs hlone ih =>
    by_cases hquote : c = '"'
    · subst hquote
      exact ⟨[], cs, rfl, .nil, by rw [markFrom]; rfl⟩
    · have hrest : closes cs = true := by simpa [hquote] using h
      have hescape : c ≠ '\\' := by
        rintro rfl
        cases cs with
        | nil => cases hrest
        | cons d cs => exact hlone d cs rfl rfl
      obtain ⟨contents, rest, rfl, hcontents, hmarks⟩ := ih hrest
      refine ⟨c :: contents, rest, rfl, ?_, ?_⟩
      · exact hcontents.append (plainBytes_utf8EncodeChar hquote hescape)
      · rw [markFrom, hmarks]
        · rfl
        · exact hquote
        · exact hlone

/-! ## Marks by bytes and by characters -/

/-- The bytes of the characters, each with the mark of its character. -/
def encodeMarked (marked : List (Char × Mark)) : List (UInt8 × Mark) :=
  marked.flatMap fun entry => (String.utf8EncodeChar entry.1).map (·, entry.2)

/-- What scrubbing leaves of a byte with its mark. -/
def visibleByte (entry : UInt8 × Mark) : UInt8 :=
  if entry.2 = .code then entry.1 else ' '.toUInt8

lemma encodeMarked_cons (c : Char) (mark : Mark) (marked : List (Char × Mark)) :
    encodeMarked ((c, mark) :: marked) =
      (String.utf8EncodeChar c).map (·, mark) ++ encodeMarked marked := rfl

lemma encodeMarked_append (marked marked' : List (Char × Mark)) :
    encodeMarked (marked ++ marked') = encodeMarked marked ++ encodeMarked marked' :=
  List.flatMap_append

lemma encodeMarked_map (mark : Mark) (cs : List Char) :
    encodeMarked (cs.map (·, mark)) = (encode cs).map (·, mark) := by
  induction cs with
  | nil => rfl
  | cons c cs ih => rw [List.map_cons, encodeMarked_cons, ih, encode_cons, List.map_append]

lemma map_fst_encodeMarked (marked : List (Char × Mark)) :
    (encodeMarked marked).map Prod.fst = encode (marked.map Prod.fst) := by
  induction marked with
  | nil => rfl
  | cons entry marked ih =>
    rw [encodeMarked_cons, List.map_append, ih, List.map_map, List.map_cons, encode_cons]
    exact congrArg (· ++ _) (List.map_id _)

lemma encode_blanked (cs : List Char) :
    encode (blanked cs) = List.replicate (byteLength cs) ' '.toUInt8 := by
  have hspaces : ∀ n, encode (List.replicate n ' ') = List.replicate n ' '.toUInt8 := by
    intro n
    induction n with
    | zero => rfl
    | succ n ih => rw [List.replicate_succ, encode_cons_of_lt (by decide), ih, List.replicate_succ]
  exact hspaces (byteLength cs)

lemma map_visibleByte_encodeMarked (marked : List (Char × Mark)) :
    (encodeMarked marked).map visibleByte = encode (marked.flatMap visible) := by
  induction marked with
  | nil => rfl
  | cons entry marked ih =>
    obtain ⟨c, mark⟩ := entry
    have hentry : ((String.utf8EncodeChar c).map (·, mark)).map visibleByte =
        encode (visible (c, mark)) := by
      rw [List.map_map]
      by_cases hcode : mark = .code
      · subst hcode
        rw [visible_code, encode_cons, encode_nil, List.append_nil]
        exact List.map_id _
      · have hbyte : visibleByte ∘ (·, mark) = fun _ => ' '.toUInt8 := by
          funext b
          exact if_neg hcode
        have hvisible : visible (c, mark) = blanked [c] := if_neg hcode
        rw [hvisible, encode_blanked, hbyte, List.map_const', String.length_utf8EncodeChar]
        rfl
    rw [encodeMarked_cons, List.map_append, ih, hentry, List.flatMap_cons, encode_append]

/-- The bytes of the part with their marks. -/
def Part.marks : Part → List (UInt8 × Mark)
  | code b => [(b, .code)]
  | literal contents =>
    ('"'.toUInt8, .code) :: (contents.map (·, .literal) ++ [('"'.toUInt8, .code)])
  | comment text => ('/'.toUInt8 :: '/'.toUInt8 :: text).map (·, .comment)
  | unclosed text => ('"'.toUInt8 :: text).map (·, .code)

lemma lexes_code {front bs : List UInt8} {parts : List Part}
    (hfront : ∀ b ∈ front, b ≠ '"'.toUInt8 ∧ b ≠ '/'.toUInt8) (h : Lexes bs parts) :
    Lexes (front ++ bs) (front.map .code ++ parts) := by
  induction front with
  | nil => exact h
  | cons b front ih =>
    obtain ⟨hb, hrest⟩ := List.forall_mem_cons.mp hfront
    exact .code hb.1 (fun hslash => absurd hslash hb.2) (ih hrest)

lemma flatMap_marks_code (bs : List UInt8) :
    (bs.map Part.code).flatMap Part.marks = bs.map (·, Mark.code) := by
  induction bs with
  | nil => rfl
  | cons b bs ih => rw [List.map_cons, List.flatMap_cons, ih]; rfl

/-- A character that begins neither a literal nor a comment is code, byte for byte. -/
lemma lexes_char {c : Char} {cs : List Char} {parts : List Part} (hquote : c ≠ '"')
    (hcomment : c = '/' → cs.head? ≠ some '/') (h : Lexes (encode cs) parts) :
    Lexes (encode (c :: cs)) ((String.utf8EncodeChar c).map .code ++ parts) := by
  by_cases hslash : c = '/'
  · subst hslash
    rw [encode_cons_of_lt (by decide), utf8EncodeChar_of_lt (by decide)]
    exact .code (by decide)
      (fun _ hnext => hcomment rfl (head?_of_head?_encode (by decide) hnext)) h
  · refine lexes_code (fun b hb => ⟨?_, ?_⟩) h
    · rintro rfl
      exact hquote ((toUInt8_mem_utf8EncodeChar_iff (by decide)).mp hb)
    · rintro rfl
      exact hslash ((toUInt8_mem_utf8EncodeChar_iff (by decide)).mp hb)

/-- The parts of a line have the marks of its characters. -/
lemma exists_lexes (line : List Char) :
    ∃ parts, Lexes (encode line) parts ∧
      encodeMarked (markLine line) = parts.flatMap Part.marks := by
  unfold markLine
  -- What follows a literal or a character of code is a shorter line.
  induction hlength : line.length using Nat.strongRecOn generalizing line with
  | ind n ih =>
    subst hlength
    cases line with
    | nil => exact ⟨[], .nil, rfl⟩
    | cons c cs =>
      by_cases hquote : c = '"'
      · subst hquote
        by_cases hcloses : closes cs = true
        · obtain ⟨contents, rest, rfl, hcontents, hmarks⟩ := markFrom_literal hcloses
          have hshorter : rest.length < ('"' :: (contents ++ '"' :: rest)).length := by
            rw [List.length_cons, List.length_append, List.length_cons]
            omega
          obtain ⟨parts, hparts, hrest⟩ := ih rest.length hshorter rest rfl
          refine ⟨.literal (encode contents) :: parts, ?_, ?_⟩
          · rw [encode_cons_of_lt (by decide), encode_append, encode_cons_of_lt (by decide)]
            exact .literal hcontents hparts
          · rw [markFrom, if_pos hcloses, hmarks, encodeMarked_cons, encodeMarked_append,
              encodeMarked_cons, encodeMarked_map, hrest, List.flatMap_cons, Part.marks,
              utf8EncodeChar_of_lt (by decide)]
            simp
        · refine ⟨[.unclosed (encode cs)], ?_, ?_⟩
          · rw [encode_cons_of_lt (by decide)]
            exact .unclosed fun hclosed => hcloses ((closed_encode_iff cs).mp hclosed)
          · rw [markFrom, if_neg hcloses, encodeMarked_map, encode_cons_of_lt (by decide),
              List.flatMap_singleton, Part.marks]
      · by_cases hcomment : c = '/' ∧ cs.head? = some '/'
        · obtain ⟨rfl, hnext⟩ := hcomment
          obtain ⟨text, rfl⟩ := List.head?_eq_some_iff.mp hnext
          refine ⟨[.comment (encode text)], ?_, ?_⟩
          · rw [encode_cons_of_lt (by decide), encode_cons_of_lt (by decide)]
            exact .comment _
          · rw [markFrom, encodeMarked_map, encode_cons_of_lt (by decide),
              encode_cons_of_lt (by decide), List.flatMap_singleton, Part.marks]
        · obtain ⟨parts, hparts, hrest⟩ := ih cs.length (by simp) cs rfl
          refine ⟨(String.utf8EncodeChar c).map .code ++ parts, ?_, ?_⟩
          · exact lexes_char hquote (fun hslash hnext => hcomment ⟨hslash, hnext⟩) hparts
          · rw [markFrom, encodeMarked_cons, hrest, List.flatMap_append, flatMap_marks_code]
            · rintro text rfl rfl
              exact hcomment ⟨rfl, rfl⟩
            · exact hquote

/-! ## What is hidden -/

lemma offsetAfter_cons (part : Part) (parts : List Part) :
    offsetAfter (part :: parts) = part.bytes.length + offsetAfter parts := by
  rw [offsetAfter, List.flatMap_cons, List.length_append, offsetAfter]

lemma hidden_cons (part : Part) (parts : List Part) (i : Nat) :
    Hidden (part :: parts) i ↔ (i < part.bytes.length ∧ part.Hides i) ∨
      (part.bytes.length ≤ i ∧ Hidden parts (i - part.bytes.length)) := by
  constructor
  · rintro ⟨front, hider, back, hparts, hfrom, hto, hhides⟩
    cases front with
    | nil =>
      obtain ⟨rfl, rfl⟩ := List.cons.inj hparts
      have hzero : offsetAfter [] = 0 := rfl
      rw [hzero, Nat.zero_add] at hto
      exact Or.inl ⟨hto, hhides⟩
    | cons first front =>
      obtain ⟨rfl, rfl⟩ := List.cons.inj hparts
      rw [offsetAfter_cons] at hfrom hto hhides
      refine Or.inr ⟨by omega, front, hider, back, rfl, by omega, by omega, ?_⟩
      rwa [Nat.sub_sub]
  · rintro (⟨hto, hhides⟩ | ⟨hle, front, hider, back, rfl, hfrom, hto, hhides⟩)
    · exact ⟨[], part, parts, rfl, Nat.zero_le i, by simpa [offsetAfter] using hto, hhides⟩
    · have hoffset := offsetAfter_cons part front
      refine ⟨part :: front, hider, back, rfl, by omega, by omega, ?_⟩
      rwa [hoffset, ← Nat.sub_sub]

lemma Part.map_fst_marks (part : Part) : part.marks.map Prod.fst = part.bytes := by
  cases part with
  | code b => rfl
  | literal contents =>
    rw [marks, List.map_cons, List.map_append, map_fst_marked, List.map_singleton, bytes]
  | comment text => exact map_fst_marked .comment _
  | unclosed text => exact map_fst_marked .code _

/-- A part hides the bytes that are not marked as code. -/
lemma Part.hides_iff {part : Part} {i : Nat} {entry : UInt8 × Mark}
    (h : part.marks[i]? = some entry) : part.Hides i ↔ entry.2 ≠ .code := by
  have hmark {mark : Mark} {bs : List UInt8} (hentry : (bs.map (·, mark))[i]? = some entry) :
      entry.2 = mark := by
    obtain ⟨b, -, rfl⟩ := List.mem_map.mp (List.mem_of_getElem? hentry)
    rfl
  cases part with
  | code b =>
    have hcode : entry.2 = .code := @hmark .code [b] h
    simp [Hides, hcode]
  | literal contents =>
    cases i with
    | zero =>
      cases h
      simp [Hides]
    | succ i =>
      rw [marks, List.getElem?_cons_succ, List.getElem?_append, List.length_map] at h
      split at h
      · rename_i hlt
        obtain ⟨b, -, rfl⟩ := List.mem_map.mp (List.mem_of_getElem? h)
        simp [Hides, hlt]
      · rename_i hge
        obtain rfl : ('"'.toUInt8, Mark.code) = entry :=
          (List.mem_singleton.mp (List.mem_of_getElem? h)).symm
        simp [Hides, hge]
  | comment text => simp [Hides, hmark h]
  | unclosed text => simp [Hides, hmark h]

lemma hidden_iff {parts : List Part} {i : Nat} {entry : UInt8 × Mark}
    (h : (parts.flatMap Part.marks)[i]? = some entry) : Hidden parts i ↔ entry.2 ≠ .code := by
  induction parts generalizing i with
  | nil => cases h
  | cons part parts ih =>
    have hlength : part.marks.length = part.bytes.length := by
      rw [← part.map_fst_marks, List.length_map]
    rw [List.flatMap_cons, List.getElem?_append, hlength] at h
    rw [hidden_cons]
    split at h
    · rename_i hlt
      rw [← Part.hides_iff h]
      constructor
      · rintro (⟨-, hhides⟩ | ⟨hle, -⟩)
        · exact hhides
        · omega
      · exact fun hhides => Or.inl ⟨hlt, hhides⟩
    · rename_i hge
      rw [← ih h]
      constructor
      · rintro (⟨hlt, -⟩ | ⟨-, hhidden⟩)
        · exact absurd hlt hge
        · exact hhidden
      · exact fun hhidden => Or.inr ⟨Nat.le_of_not_lt hge, hhidden⟩

/-- Parts blank exactly the bytes that are not marked as code. -/
lemma blanks_iff {parts : List Part} {out : List UInt8} :
    Blanks parts ((parts.flatMap Part.marks).map Prod.fst) out ↔
      out = (parts.flatMap Part.marks).map visibleByte := by
  constructor
  · intro h
    refine List.ext_getElem? fun i => ?_
    cases hentry : (parts.flatMap Part.marks)[i]? with
    | none =>
      have hlength := h.length_eq
      rw [List.length_map] at hlength
      rw [List.getElem?_map, hentry, Option.map_none, List.getElem?_eq_none_iff, hlength]
      exact List.getElem?_eq_none_iff.mp hentry
    | some entry =>
      have hi : i < ((parts.flatMap Part.marks).map Prod.fst).length := by
        rw [List.length_map]
        exact (List.getElem?_eq_some_iff.mp hentry).1
      rw [List.getElem?_map, hentry, Option.map_some]
      by_cases hcode : entry.2 = .code
      · rw [h.shown i hi (fun hhidden => (hidden_iff hentry).mp hhidden hcode), List.getElem?_map,
          hentry, visibleByte, if_pos hcode, Option.map_some]
      · rw [h.hidden i hi ((hidden_iff hentry).mpr hcode), visibleByte, if_neg hcode]
  · rintro rfl
    refine ⟨by simp only [List.length_map], fun i hi hhidden => ?_, fun i hi hshown => ?_⟩
    · rw [List.length_map] at hi
      have hentry := List.getElem?_eq_getElem hi
      rw [List.getElem?_map, hentry, Option.map_some, visibleByte,
        if_neg ((hidden_iff hentry).mp hhidden)]
    · rw [List.length_map] at hi
      have hentry := List.getElem?_eq_getElem hi
      have hcode := not_not.mp (mt (hidden_iff hentry).mpr hshown)
      rw [List.getElem?_map, List.getElem?_map, hentry, Option.map_some, Option.map_some,
        visibleByte, if_pos hcode]

/-- **Scrubbing a line blanks what its literals and comments hide.**  The line consists of one row
of parts.  Its scrubbed form is the only row of bytes, as long as the line, with a space wherever a
byte lies strictly between the quotes of a closed literal or in a comment, and with the byte of the
line everywhere else; and these bytes are text again. -/
theorem scrubLine_eq_iff_blanks (line : List Char) :
    ∃ parts, (∀ other, Lexes (encode line) other ↔ other = parts) ∧
      (∀ out, Blanks parts (encode line) out ↔ out = encode (scrubLine line)) ∧
      (encode (scrubLine line)).toByteArray.IsValidUTF8 := by
  obtain ⟨parts, hparts, hmarks⟩ := exists_lexes line
  have hbytes : encode line = (parts.flatMap Part.marks).map Prod.fst := by
    rw [← hmarks, map_fst_encodeMarked, map_fst_markLine]
  have hscrubbed : encode (scrubLine line) = (parts.flatMap Part.marks).map visibleByte := by
    rw [← hmarks, map_visibleByte_encodeMarked, flatMap_visible_markLine]
  refine ⟨parts, fun other => ⟨fun hother => hother.unique hparts, ?_⟩, fun out => ?_,
    isValidUTF8_encode _⟩
  · rintro rfl
    exact hparts
  · rw [hbytes, hscrubbed]
    exact blanks_iff

end LanguageServer.Source
