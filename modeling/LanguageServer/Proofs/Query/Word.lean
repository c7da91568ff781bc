import LanguageServer.Proofs.Document.Offset
import LanguageServer.Proofs.Query.Slices
import LanguageServer.Query.Definition
import LanguageServer.Query.Hover

/-!
# The word under the cursor

Hover and definition are asked at a position and answer about a word.  The word is found by two
loops over the bytes of the line, one going back from the column and one going on from it.  What
they find is said here without them: a run of word bytes to which no byte can be added on either
side (`IsRun`), and which the column touches (`RunAt`).

At most one run touches a column, since two of them would be one (`RunAt.unique`), and the loops
find it (`runAt_iff`).  Word bytes are plain ASCII, so that a run begins and ends between
characters, whatever else there is on the line.  So everywhere from before the first to behind the
last character of a word there is the same word, and the answers are the same
(`answers_depend_on_word`).
-/

namespace LanguageServer

namespace Text

lemma exists_of_lt_length_takeWhile {α : Type} {p : α → Bool} {l : List α} {i : Nat}
    (h : i < (l.takeWhile p).length) : ∃ a ∈ l[i]?, p a = true := by
  have hsame : l[i]? = (l.takeWhile p)[i]? := by
    conv_lhs => rw [← @List.takeWhile_append_dropWhile _ p l]
    exact List.getElem?_append_left h
  exact ⟨_, hsame.trans (List.getElem?_eq_getElem h), List.mem_takeWhile_imp (List.getElem_mem h)⟩

lemma le_length_takeWhile {α : Type} {p : α → Bool} {l : List α} {n : Nat}
    (h : ∀ i < n, ∃ a ∈ l[i]?, p a = true) : n ≤ (l.takeWhile p).length := by
  induction n generalizing l with
  | zero => exact Nat.zero_le _
  | succ n ih =>
    obtain ⟨a, ha, hpa⟩ := h 0 (Nat.succ_pos n)
    cases l with
    | nil => cases ha
    | cons b l =>
      obtain rfl : b = a := Option.some.inj ha
      rw [List.takeWhile_cons_of_pos hpa, List.length_cons]
      exact Nat.succ_le_succ (ih fun i hi => h (i + 1) (Nat.succ_lt_succ hi))

/-- A byte of plain ASCII is a character, so there is a boundary before it. -/
lemma isBoundary_of_ascii {cs : List Char} {i : Nat} {b : UInt8} (h : (encode cs)[i]? = some b)
    (hb : b.toNat < 0x80) : IsBoundary cs i := by
  rw [isBoundary_iff]
  induction cs generalizing i with
  | nil => cases h
  | cons c cs ih =>
    by_cases hzero : i = 0
    · exact ⟨[], c :: cs, rfl, hzero.symm⟩
    · have hsize : c.utf8Size ≤ i := by
        by_contra hlt
        have hmem : b ∈ String.utf8EncodeChar c := by
          have hinside : i < (String.utf8EncodeChar c).length := by
            rw [String.length_utf8EncodeChar]
            omega
          rw [encode_cons, List.getElem?_append_left hinside] at h
          exact List.mem_of_getElem? h
        have hascii : c.toNat < 0x80 := by
          by_contra hle
          have hhigh := le_of_mem_utf8EncodeChar (Nat.le_of_not_lt hle) hmem
          omega
        have hone := utf8Size_of_lt hascii
        omega
      rw [encode_cons, List.getElem?_append_right (by rwa [String.length_utf8EncodeChar]),
        String.length_utf8EncodeChar] at h
      obtain ⟨front, back, rfl, hfront⟩ := ih h
      exact ⟨c :: front, back, rfl, by rw [byteLength_cons, hfront]; omega⟩

end Text

open Text

namespace Query

/-! ## Runs of word bytes -/

/-- Is the byte a letter, a digit, an underscore, a dot or an attribute sign of plain ASCII? -/
def isWordByte (b : UInt8) : Bool :=
  (65 ≤ b.toNat && b.toNat ≤ 90) || (97 ≤ b.toNat && b.toNat ≤ 122) ||
    (48 ≤ b.toNat && b.toNat ≤ 57) || b == '_'.toUInt8 || b == '.'.toUInt8 || b == '@'.toUInt8

lemma isLookupPart_ofUInt8 (b : UInt8) : isLookupPart (Char.ofUInt8 b) = isWordByte b := by
  have hall : ∀ n : Fin 256, isLookupPart (Char.ofUInt8 (UInt8.ofFin n)) =
      isWordByte (UInt8.ofFin n) := by
    decide +kernel
  exact hall b.toFin

/-- From `start` up to `stop` there are word bytes only. -/
def WordBytes (bytes : List UInt8) (start stop : Nat) : Prop :=
  ∀ i, start ≤ i → i < stop → ∃ b ∈ bytes[i]?, isWordByte b = true

/-- From `start` up to `stop` there are word bytes, at least one, and no others can be added to
them on either side. -/
structure IsRun (bytes : List UInt8) (start stop : Nat) : Prop where
  start_lt_stop : start < stop
  wordBytes : WordBytes bytes start stop
  maximal : ∀ start' stop', start' ≤ start → stop ≤ stop' → WordBytes bytes start' stop' →
    start' = start ∧ stop' = stop

/-- The run touches the byte offset: the offset lies in it or at one of its ends. -/
structure RunAt (bytes : List UInt8) (offset start stop : Nat) : Prop extends
    IsRun bytes start stop where
  start_le : start ≤ offset
  le_stop : offset ≤ stop

/-- **No two runs touch the same offset.**  Together they are one. -/
lemma RunAt.unique {bytes : List UInt8} {offset start stop start' stop' : Nat}
    (h : RunAt bytes offset start stop) (h' : RunAt bytes offset start' stop') :
    start = start' ∧ stop = stop' := by
  have hboth : WordBytes bytes (min start start') (max stop stop') := by
    intro i hfrom hto
    have hle := h.start_le
    have hle' := h'.start_le
    have hstop := h.le_stop
    have hstop' := h'.le_stop
    by_cases hfirst : start ≤ i ∧ i < stop
    · exact h.wordBytes i hfirst.1 hfirst.2
    · exact h'.wordBytes i (by omega) (by omega)
  obtain ⟨hstart, hstop⟩ := h.maximal _ _ (Nat.min_le_left _ _) (Nat.le_max_left _ _) hboth
  obtain ⟨hstart', hstop'⟩ := h'.maximal _ _ (Nat.min_le_right _ _) (Nat.le_max_right _ _) hboth
  exact ⟨hstart.symm.trans hstart', hstop.symm.trans hstop'⟩

/-! ## The two loops -/

section Loops

variable {bytes : List UInt8} {offset : Nat}

lemma backOver_le (bytes : List UInt8) (offset : Nat) :
    backOver isLookupPart bytes offset ≤ offset := by
  induction offset with
  | zero => rfl
  | succ offset ih =>
    rw [backOver]
    split
    · exact ih.trans (Nat.le_succ offset)
    · rfl

lemma any_isLookupPart {i : Nat} :
    bytes[i]?.any (isLookupPart ∘ Char.ofUInt8) = true ↔ ∃ b ∈ bytes[i]?, isWordByte b = true := by
  simp [Option.any_eq_true, isLookupPart_ofUInt8]

/-- Going back passes word bytes only. -/
lemma wordBytes_backOver (bytes : List UInt8) (offset : Nat) :
    WordBytes bytes (backOver isLookupPart bytes offset) offset := by
  induction offset with
  | zero => exact fun i _ hi => absurd hi (Nat.not_lt_zero i)
  | succ offset ih =>
    rw [backOver]
    split
    · rename_i hbyte
      intro i hfrom hto
      rcases Nat.lt_or_eq_of_le (Nat.le_of_lt_succ hto) with hlt | rfl
      · exact ih i hfrom hlt
      · exact any_isLookupPart.mp hbyte
    · exact fun i hfrom hto => by omega

/-- Going back passes all of them. -/
lemma backOver_le_of_wordBytes {start : Nat} (hle : start ≤ offset)
    (h : WordBytes bytes start offset) : backOver isLookupPart bytes offset ≤ start := by
  induction offset with
  | zero => exact Nat.zero_le _
  | succ offset ih =>
    rcases Nat.lt_or_eq_of_le hle with hlt | rfl
    · have hbyte := h offset (by omega) (Nat.lt_succ_self _)
      rw [backOver, if_pos (any_isLookupPart.mpr hbyte)]
      exact ih (by omega) fun i hfrom hto => h i hfrom (by omega)
    · exact backOver_le bytes (offset + 1)

lemma wordBytes_forwardOver (bytes : List UInt8) (offset : Nat) :
    WordBytes bytes offset (forwardOver isLookupPart bytes offset) := by
  intro i hfrom hto
  obtain ⟨k, rfl⟩ := Nat.exists_eq_add_of_le hfrom
  obtain ⟨b, hb, hword⟩ := exists_of_lt_length_takeWhile (Nat.lt_of_add_lt_add_left hto)
  exact ⟨b, by rwa [List.getElem?_drop] at hb, (isLookupPart_ofUInt8 b).symm.trans hword⟩

lemma le_forwardOver_of_wordBytes {stop : Nat} (hle : offset ≤ stop)
    (h : WordBytes bytes offset stop) : stop ≤ forwardOver isLookupPart bytes offset := by
  obtain ⟨n, rfl⟩ := Nat.exists_eq_add_of_le hle
  refine Nat.add_le_add_left (le_length_takeWhile fun i hi => ?_) offset
  obtain ⟨b, hb, hword⟩ := h (offset + i) (Nat.le_add_right _ _) (Nat.add_lt_add_left hi _)
  exact ⟨b, by rwa [List.getElem?_drop], (isLookupPart_ofUInt8 b).trans hword⟩

/-- **The two loops find the run that touches the offset**, if there is one. -/
lemma runAt_iff {start stop : Nat} :
    RunAt bytes offset start stop ↔
      start = backOver isLookupPart bytes offset ∧
        stop = forwardOver isLookupPart bytes offset ∧ start < stop := by
  have hback := backOver_le bytes offset
  have hforward : offset ≤ forwardOver isLookupPart bytes offset := Nat.le_add_right _ _
  have hfound (hlt : backOver isLookupPart bytes offset < forwardOver isLookupPart bytes offset) :
      RunAt bytes offset (backOver isLookupPart bytes offset)
        (forwardOver isLookupPart bytes offset) := by
    refine ⟨⟨hlt, fun i hfrom hto => ?_, fun start' stop' hstart hstop hword => ?_⟩,
      hback, hforward⟩
    · rcases Nat.lt_or_ge i offset with hlt | hge
      · exact wordBytes_backOver bytes offset i hfrom hlt
      · exact wordBytes_forwardOver bytes offset i hge hto
    · have hle : backOver isLookupPart bytes offset ≤ start' :=
        backOver_le_of_wordBytes (by omega) fun i hfrom hto => hword i hfrom (by omega)
      have hle' : stop' ≤ forwardOver isLookupPart bytes offset :=
        le_forwardOver_of_wordBytes (by omega) fun i hfrom hto => hword i (by omega) hto
      omega
  constructor
  · intro h
    have hstart : backOver isLookupPart bytes offset ≤ start :=
      backOver_le_of_wordBytes h.start_le fun i hfrom hto =>
        h.wordBytes i hfrom (Nat.lt_of_lt_of_le hto h.le_stop)
    have hstop : stop ≤ forwardOver isLookupPart bytes offset :=
      le_forwardOver_of_wordBytes h.le_stop fun i hfrom hto =>
        h.wordBytes i (h.start_le.trans hfrom) hto
    have hlt := h.start_lt_stop
    obtain ⟨hstart, hstop⟩ := h.unique (hfound (by omega))
    exact ⟨hstart, hstop, hlt⟩
  · rintro ⟨rfl, rfl, hlt⟩
    exact hfound hlt

end Loops

/-! ## The word at a place -/

variable {before after : List Char}

lemma wordAround?_eq_some_iff {word : List Char} :
    wordAround? before after = some word ↔ ∃ start stop,
      RunAt (encode (before ++ after)) (byteLength before) start stop ∧
        Slice (before ++ after) start stop word := by
  obtain ⟨found, hslice, hfound⟩ := slice_word before after
  rw [hfound]
  constructor
  · intro hword
    split at hword
    · cases hword
    · rename_i hne
      obtain rfl := Option.some.inj hword
      exact ⟨_, _, runAt_iff.mpr ⟨rfl, rfl, hslice.lt_iff.mpr hne⟩, hslice⟩
  · rintro ⟨start, stop, hrun, hword⟩
    obtain ⟨rfl, rfl, hlt⟩ := runAt_iff.mp hrun
    rw [if_neg (hslice.lt_iff.mp hlt), hslice.unique hword]

lemma wordAround?_eq_none_iff :
    wordAround? before after = none ↔
      ∀ start stop, ¬ RunAt (encode (before ++ after)) (byteLength before) start stop := by
  obtain ⟨found, hslice, hfound⟩ := slice_word before after
  rw [hfound]
  constructor
  · intro hnone start stop hrun
    obtain ⟨rfl, rfl, hlt⟩ := runAt_iff.mp hrun
    rw [if_neg (hslice.lt_iff.mp hlt)] at hnone
    cases hnone
  · intro hnone
    rw [if_pos]
    by_contra hne
    exact hnone _ _ (runAt_iff.mpr ⟨rfl, rfl, hslice.lt_iff.mpr hne⟩)

/-! ## Runs and characters -/

lemma toNat_lt_of_isWordByte {b : UInt8} (h : isWordByte b = true) : b.toNat < 0x80 := by
  rw [← isLookupPart_ofUInt8] at h
  have hlt := lt_of_isLookupPart h
  rwa [toNat_ofUInt8] at hlt

/-- A run is a word of the line, and all columns from before its first to behind its last character
touch it. -/
lemma exists_word_of_isRun {line : List Char} {start stop : Nat}
    (h : IsRun (encode line) start stop) :
    ∃ lead word rest, line = lead ++ word ++ rest ∧
      start = byteLength lead ∧ stop = byteLength (lead ++ word) ∧
      ∀ column, unitLength lead ≤ column → column ≤ unitLength (lead ++ word) →
        RunAt (encode line) (columnBytes column line) start stop := by
  obtain ⟨b, hb, hword⟩ := h.wordBytes start (Nat.le_refl _) h.start_lt_stop
  obtain ⟨lead, rest, rfl, rfl⟩ := isBoundary_iff.mp
    (isBoundary_of_ascii hb (toNat_lt_of_isWordByte hword))
  have hrun : RunAt (encode (lead ++ rest)) (byteLength lead) (byteLength lead) stop :=
    ⟨h, Nat.le_refl _, h.start_lt_stop.le⟩
  obtain ⟨-, hstop, -⟩ := runAt_iff.mp hrun
  rw [forwardOver_encode fun _ => lt_of_isLookupPart] at hstop
  have hline : lead ++ rest =
      lead ++ rest.takeWhile isLookupPart ++ rest.dropWhile isLookupPart := by
    rw [List.append_assoc, List.takeWhile_append_dropWhile]
  refine ⟨lead, _, _, hline, rfl, hstop, fun column hfrom hto => ⟨h, ?_, ?_⟩⟩
  · have hmono := columnBytes_mono hfrom (lead ++ rest)
    rwa [columnBytes_eq, take_columnChars_unitLength] at hmono
  · have hmono := columnBytes_mono hto (lead ++ rest)
    rw [hstop]
    refine hmono.trans_eq ?_
    rw [hline, columnBytes_eq, take_columnChars_unitLength]

/-! ## Answers -/

lemma word?_eq_of_runAt {text : String} {line : List Char} {position other : Position}
    {start stop : Nat} (hsame : position.line = other.line)
    (hline : (lines text.toList)[position.line]? = some line)
    (hrun : RunAt (encode line) (columnBytes position.character line) start stop)
    (hrun' : RunAt (encode line) (columnBytes other.character line) start stop) :
    word? text position = word? text other := by
  obtain ⟨word, _, _, rfl, rfl, hslice, hword⟩ := slice_word_at hline
  obtain ⟨word', _, _, rfl, rfl, hslice', hword'⟩ := slice_word_at (hsame ▸ hline)
  obtain ⟨hstart, hstop, hlt⟩ := runAt_iff.mp hrun
  obtain ⟨hstart', hstop', -⟩ := runAt_iff.mp hrun'
  rw [← hstart, ← hstop] at hslice hword
  rw [← hstart', ← hstop'] at hslice' hword'
  rw [hword, hword', hslice.unique hslice']

/-- **Answers depend on the word, not on where in it the cursor is.**  The word at a place between
two characters is what the one run holds that touches the place, and there is none if no run does.
Positions of a line that touch the same run have the same hover text and the same definition.  All
UTF-16 columns from before the first to behind the last character of a run touch it. -/
theorem answers_depend_on_word :
    -- The word at a place of a line is the one run that touches the place.
    (∀ before after : List Char,
      (∀ word, wordAround? before after = some word ↔ ∃ start stop,
        RunAt (encode (before ++ after)) (byteLength before) start stop ∧
          Slice (before ++ after) start stop word) ∧
      (wordAround? before after = none ↔
        ∀ start stop, ¬ RunAt (encode (before ++ after)) (byteLength before) start stop) ∧
      ∀ start stop start' stop',
        RunAt (encode (before ++ after)) (byteLength before) start stop →
        RunAt (encode (before ++ after)) (byteLength before) start' stop' →
        start = start' ∧ stop = stop') ∧
    -- Two positions that touch the same run have the same answers.
    (∀ (snapshot : Snapshot) (position other : Position) (line : List Char) (start stop : Nat),
      position.line = other.line → (lines snapshot.text.toList)[position.line]? = some line →
      RunAt (encode line) (columnBytes position.character line) start stop →
      RunAt (encode line) (columnBytes other.character line) start stop →
      hover? snapshot position = hover? snapshot other ∧
        definition? snapshot position = definition? snapshot other) ∧
    -- A run is touched from before its first to behind its last character.
    ∀ (line : List Char) (start stop : Nat), IsRun (encode line) start stop →
      ∃ lead word rest, line = lead ++ word ++ rest ∧
        start = byteLength lead ∧ stop = byteLength (lead ++ word) ∧
        ∀ column, unitLength lead ≤ column → column ≤ unitLength (lead ++ word) →
          RunAt (encode line) (columnBytes column line) start stop := by
  refine ⟨fun before after => ⟨fun word => wordAround?_eq_some_iff, wordAround?_eq_none_iff,
    fun start stop start' stop' hrun hrun' => hrun.unique hrun'⟩, ?_,
    fun line start stop hrun => exists_word_of_isRun hrun⟩
  intro snapshot position other line start stop hsame hline hrun hrun'
  have hword := word?_eq_of_runAt hsame hline hrun hrun'
  rw [hover?, hover?, definition?, definition?, hword]
  exact ⟨rfl, rfl⟩

-- Before the word, within it and behind it, on a line with characters of several bytes and units.
example :
    let line := "é🎉io.print🎉".toList
    wordAt? line 2 = some "io.print".toList ∧ wordAt? line 3 = some "io.print".toList ∧
      wordAt? line 8 = some "io.print".toList ∧ wordAt? line 11 = some "io.print".toList ∧
      wordAt? line 1 = none ∧ wordAt? line 12 = none := by
  decide +kernel

end Query

end LanguageServer
