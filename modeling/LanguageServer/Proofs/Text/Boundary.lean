import Mathlib.Data.List.Induction
import Mathlib.Order.Bounds.Defs
import LanguageServer.Proofs.Text.Bytes
import LanguageServer.Proofs.Text.Measure

/-!
# Slices between byte offsets

A text may be cut at a byte offset only if the offset is a boundary between characters
(`IsBoundary`); a slice is what lies between two such offsets in the right order (`Slice`).  Offsets
that are the byte lengths of beginnings of the text are boundaries, hence a part that is known to
stand somewhere in a text is a slice of it (`Slice.of_append`).

Some offsets are found by a loop over single bytes, which knows nothing about characters: going back
or forward from an offset for as long as the bytes are of a class (`backOver`, `forwardOver`).  If
the class has ASCII characters only, no byte of another character is ever of the class, and the loop
stops where the run of characters ends (`backOver_encode`, `forwardOver_encode`).
-/

namespace LanguageServer.Text

/-! ## Boundaries -/

/-- The byte offset lies between two characters of the text, or at one of its ends. -/
def IsBoundary (cs : List Char) (offset : Nat) : Prop :=
  String.Pos.Raw.IsValid (String.ofList cs) ⟨offset⟩

lemma utf8ByteSize_ofList (cs : List Char) : (String.ofList cs).utf8ByteSize = byteLength cs := by
  rw [← length_encode]
  exact List.size_toByteArray

/-- The boundaries of a text are the byte lengths of its beginnings. -/
lemma isBoundary_iff {cs : List Char} {offset : Nat} :
    IsBoundary cs offset ↔ ∃ front back, cs = front ++ back ∧ byteLength front = offset := by
  rw [IsBoundary, String.Pos.Raw.isValid_ofList]
  constructor
  · rintro ⟨n, hoffset⟩
    refine ⟨cs.take n, cs.drop n, (List.take_append_drop n cs).symm, ?_⟩
    rw [← utf8ByteSize_ofList]
    exact hoffset.symm
  · rintro ⟨front, back, rfl, rfl⟩
    exact ⟨front.length, by rw [List.take_left, utf8ByteSize_ofList]⟩

lemma isBoundary_append (front back : List Char) :
    IsBoundary (front ++ back) (byteLength front) :=
  isBoundary_iff.mpr ⟨front, back, rfl, rfl⟩

/-- A cut by bytes is made at the last boundary that does not lie past the offset. -/
lemma isGreatest_byteLength_takeBytes (offset : Nat) (cs : List Char) :
    IsGreatest {n | IsBoundary cs n ∧ n ≤ offset} (byteLength (takeBytes offset cs)) := by
  refine ⟨⟨?_, byteLength_takeBytes_le offset cs⟩, ?_⟩
  · have hboundary := isBoundary_append (takeBytes offset cs) (dropBytes offset cs)
    rwa [takeBytes_append_dropBytes] at hboundary
  · rintro n ⟨hn, hle⟩
    obtain ⟨front, back, rfl, rfl⟩ := isBoundary_iff.mp hn
    obtain ⟨more, rfl⟩ := Nat.exists_eq_add_of_le hle
    rw [takeBytes_add, byteLength_append]
    exact Nat.le_add_right _ _

/-! ## Slices -/

/-- The part stands between the two byte offsets of the text, which are in order, within the text
and at boundaries. -/
structure Slice (cs : List Char) (start stop : Nat) (part : List Char) : Prop where
  start_isBoundary : IsBoundary cs start
  stop_isBoundary : IsBoundary cs stop
  start_le_stop : start ≤ stop
  stop_le : stop ≤ byteLength cs
  bytes : encode part = ((encode cs).drop start).take (stop - start)

lemma Slice.of_append (front part back : List Char) :
    Slice (front ++ part ++ back) (byteLength front) (byteLength (front ++ part)) part where
  start_isBoundary := by
    rw [List.append_assoc]
    exact isBoundary_append front (part ++ back)
  stop_isBoundary := isBoundary_append (front ++ part) back
  start_le_stop := by
    rw [byteLength_append]
    exact Nat.le_add_right _ _
  stop_le := by
    rw [byteLength_append (front ++ part)]
    exact Nat.le_add_right _ _
  bytes := by
    have hlength : byteLength (front ++ part) - byteLength front = (encode part).length := by
      rw [byteLength_append, Nat.add_sub_cancel_left, length_encode]
    rw [hlength, ← length_encode front, encode_append, encode_append, List.append_assoc,
      List.drop_left, List.take_left]

lemma Slice.of_front (front back : List Char) :
    Slice (front ++ back) 0 (byteLength front) front :=
  Slice.of_append [] front back

lemma Slice.unique {cs part part' : List Char} {start stop : Nat} (h : Slice cs start stop part)
    (h' : Slice cs start stop part') : part = part' :=
  encode_injective (h.bytes.trans h'.bytes.symm)

lemma Slice.lt_iff {cs part : List Char} {start stop : Nat} (h : Slice cs start stop part) :
    start < stop ↔ part ≠ [] := by
  have hlength : byteLength part = stop - start := by
    have hstop := h.stop_le
    rw [← length_encode, h.bytes, List.length_take, List.length_drop, length_encode]
    omega
  cases part with
  | nil =>
    rw [byteLength_nil] at hlength
    exact iff_of_false (by omega) (fun hne => hne rfl)
  | cons c cs =>
    have hsize := c.utf8Size_pos
    rw [byteLength_cons] at hlength
    exact iff_of_true (by omega) (List.cons_ne_nil c cs)

lemma sliceBytes_append (front part back : List Char) :
    sliceBytes (byteLength front) (byteLength (front ++ part)) (front ++ part ++ back) = part := by
  rw [sliceBytes, List.append_assoc, dropBytes_byteLength_append, byteLength_append,
    Nat.add_sub_cancel_left, takeBytes_byteLength_append]

/-! ## Runs of bytes -/

/-- Where one arrives by going back from the byte offset for as long as the bytes are of the
class. -/
def backOver (part : Char → Bool) (bytes : List UInt8) : Nat → Nat
  | 0 => 0
  | offset + 1 =>
    if bytes[offset]?.any (part ∘ Char.ofUInt8) then backOver part bytes offset else offset + 1

/-- Where one arrives by going on from the byte offset for as long as the bytes are of the class. -/
def forwardOver (part : Char → Bool) (bytes : List UInt8) (offset : Nat) : Nat :=
  offset + ((bytes.drop offset).takeWhile (part ∘ Char.ofUInt8)).length

lemma toNat_ofUInt8 (b : UInt8) : (Char.ofUInt8 b).toNat = b.toNat :=
  UInt8.toNat_toUInt32 b

lemma ofUInt8_toUInt8 {c : Char} (hc : c.toNat < 0x80) : Char.ofUInt8 c.toUInt8 = c := by
  have hnumber : (Char.ofUInt8 c.toUInt8).toNat = c.toNat := by
    rw [toNat_ofUInt8, toNat_toUInt8 hc]
  rw [← Char.ofNat_toNat (Char.ofUInt8 c.toUInt8), hnumber, Char.ofNat_toNat]

/-- The bytes of a character stand in the text behind those of the characters before it. -/
lemma getElem?_encode (front back : List Char) {c : Char} {k : Nat} (hk : k < c.utf8Size) :
    (encode (front ++ c :: back))[byteLength front + k]? = (String.utf8EncodeChar c)[k]? := by
  rw [encode_append, encode_cons, ← length_encode, List.getElem?_append_right (by omega),
    Nat.add_sub_cancel_left, List.getElem?_append_left]
  rwa [String.length_utf8EncodeChar]

section Ascii

variable {part : Char → Bool} (hpart : ∀ c, part c = true → c.toNat < 0x80)

include hpart in
/-- A byte of a character is of the class only if the character is. -/
lemma part_ofUInt8_of_mem {c : Char} (hc : part c = false) {b : UInt8}
    (hb : b ∈ String.utf8EncodeChar c) : part (Char.ofUInt8 b) = false := by
  by_cases hascii : c.toNat < 0x80
  · rw [utf8EncodeChar_of_lt hascii, List.mem_singleton] at hb
    rw [hb, ofUInt8_toUInt8 hascii, hc]
  · have hle := le_of_mem_utf8EncodeChar (Nat.le_of_not_lt hascii) hb
    rw [Bool.eq_false_iff]
    intro hbyte
    have hlt := hpart _ hbyte
    rw [toNat_ofUInt8] at hlt
    omega

include hpart in
lemma backOver_of_part (front back : List Char) {c : Char} (hc : part c = true) :
    backOver part (encode (front ++ c :: back)) (byteLength (front ++ [c])) =
      backOver part (encode (front ++ c :: back)) (byteLength front) := by
  have hascii := hpart c hc
  have hsize := utf8Size_of_lt hascii
  have hbyte : (encode (front ++ c :: back))[byteLength front]? = some c.toUInt8 := by
    have h := getElem?_encode front back (c := c) (k := 0) c.utf8Size_pos
    rwa [Nat.add_zero, utf8EncodeChar_of_lt hascii] at h
  have hlength : byteLength (front ++ [c]) = byteLength front + 1 := by
    rw [byteLength_append, byteLength_cons, hsize, byteLength_nil]
  rw [hlength, backOver, hbyte, if_pos]
  rw [Option.any_some, Function.comp_apply, ofUInt8_toUInt8 hascii, hc]

include hpart in
lemma backOver_of_not_part (front back : List Char) {c : Char} (hc : part c = false) :
    backOver part (encode (front ++ c :: back)) (byteLength (front ++ [c])) =
      byteLength (front ++ [c]) := by
  -- The loop looks at the last byte of the character.
  obtain ⟨k, hk⟩ : ∃ k, c.utf8Size = k + 1 := ⟨c.utf8Size - 1, by have := c.utf8Size_pos; omega⟩
  have hlength : byteLength (front ++ [c]) = byteLength front + k + 1 := by
    rw [byteLength_append, byteLength_cons, hk, byteLength_nil, Nat.add_zero, Nat.add_assoc]
  have hbyte : ¬ (String.utf8EncodeChar c)[k]?.any (part ∘ Char.ofUInt8) = true := by
    rw [Option.any_eq_true]
    rintro ⟨b, hb, hclass⟩
    rw [Function.comp_apply, part_ofUInt8_of_mem hpart hc (List.mem_of_getElem? hb)] at hclass
    cases hclass
  rw [hlength, backOver, getElem?_encode front back (by omega), if_neg hbyte]

include hpart in
/-- **Going back over bytes of an ASCII class is going back over characters of it.** -/
lemma backOver_encode {lead run : List Char} (hrun : ∀ c ∈ run, part c = true)
    (hlead : ∀ c ∈ lead.getLast?, part c = false) (back : List Char) :
    backOver part (encode (lead ++ run ++ back)) (byteLength (lead ++ run)) = byteLength lead := by
  induction run using List.reverseRecOn generalizing back with
  | nil =>
    rw [List.append_nil]
    rcases List.eq_nil_or_concat lead with rfl | ⟨front, c, rfl⟩
    · rfl
    · rw [List.concat_eq_append, List.append_assoc, List.singleton_append]
      exact backOver_of_not_part hpart front back (hlead c (by simp))
  | append_singleton run c ih =>
    have hc : part c = true := hrun c (by simp)
    rw [← List.append_assoc lead, List.append_assoc _ [c], List.singleton_append,
      backOver_of_part hpart _ back hc]
    exact ih (fun d hd => hrun d (List.mem_append_left _ hd)) (c :: back)

include hpart in
lemma length_takeWhile_encode (cs : List Char) :
    ((encode cs).takeWhile (part ∘ Char.ofUInt8)).length = byteLength (cs.takeWhile part) := by
  induction cs with
  | nil => rfl
  | cons c cs ih =>
    by_cases hc : part c = true
    · have hascii := hpart c hc
      have hbyte : (part ∘ Char.ofUInt8) c.toUInt8 = true := by
        rw [Function.comp_apply, ofUInt8_toUInt8 hascii, hc]
      rw [encode_cons_of_lt hascii, List.takeWhile_cons_of_pos hbyte, List.length_cons, ih,
        List.takeWhile_cons_of_pos hc, byteLength_cons, utf8Size_of_lt hascii, Nat.add_comm]
    · obtain ⟨b, more, hbytes, -⟩ := exists_utf8EncodeChar c
      have hbyte : ¬ (part ∘ Char.ofUInt8) b = true := by
        have hb : b ∈ String.utf8EncodeChar c := by
          rw [hbytes]
          exact List.mem_cons_self
        rw [Function.comp_apply, part_ofUInt8_of_mem hpart (Bool.eq_false_iff.mpr hc) hb]
        exact Bool.false_ne_true
      rw [encode_cons, hbytes, List.cons_append, List.takeWhile_cons_of_neg hbyte,
        List.takeWhile_cons_of_neg hc]
      rfl

include hpart in
/-- **Going on over bytes of an ASCII class is going on over characters of it.** -/
lemma forwardOver_encode (front back : List Char) :
    forwardOver part (encode (front ++ back)) (byteLength front) =
      byteLength (front ++ back.takeWhile part) := by
  rw [forwardOver, encode_append, ← length_encode front, List.drop_left,
    length_takeWhile_encode hpart, length_encode, byteLength_append]

end Ascii

end LanguageServer.Text
