import Mathlib.Tactic.Common
import LanguageServer.Text.Measure
import LanguageServer.Text.Utf8

/-!
# The bytes of a text

Offsets count the bytes of the UTF-8 form of a text, and the scanners that look at single bytes look
for ASCII characters only.  They may do so because the two kinds of characters keep apart: an ASCII
character is a single byte of its own number (`utf8EncodeChar_of_lt`), and every byte of any other
character lies above them all (`le_of_mem_utf8EncodeChar`).  An ASCII byte is therefore
always a character of its own (`toUInt8_mem_utf8EncodeChar_iff`).
-/

namespace LanguageServer.Text

/-! ## Texts -/

@[simp] lemma encode_nil : encode [] = [] := rfl

@[simp] lemma encode_cons (c : Char) (cs : List Char) :
    encode (c :: cs) = String.utf8EncodeChar c ++ encode cs := rfl

@[simp] lemma encode_append (cs ds : List Char) : encode (cs ++ ds) = encode cs ++ encode ds :=
  List.flatMap_append

lemma length_encode (cs : List Char) : (encode cs).length = byteLength cs := by
  induction cs with
  | nil => rfl
  | cons c cs ih => rw [encode_cons, List.length_append, String.length_utf8EncodeChar, ih,
      byteLength_cons]

/-- The bytes of a text are a valid form of it. -/
lemma encode_injective {cs ds : List Char} (h : encode cs = encode ds) : cs = ds := by
  refine String.ofList_injective (String.toByteArray_inj.mp ?_)
  rw [String.toByteArray_ofList, String.toByteArray_ofList]
  exact congrArg List.toByteArray h

lemma isValidUTF8_encode (cs : List Char) : (encode cs).toByteArray.IsValidUTF8 :=
  ⟨cs, rfl⟩

/-! ## Characters -/

lemma utf8Size_of_lt {c : Char} (h : c.toNat < 0x80) : c.utf8Size = 1 := by
  rw [Char.utf8Size_eq_one_iff, UInt32.le_iff_toNat_le]
  exact Nat.le_of_lt_succ h

/-- An ASCII character is the byte of its number. -/
lemma utf8EncodeChar_of_lt {c : Char} (h : c.toNat < 0x80) :
    String.utf8EncodeChar c = [c.toUInt8] :=
  String.utf8EncodeChar_eq_singleton (utf8Size_of_lt h)

lemma encode_cons_of_lt {c : Char} (h : c.toNat < 0x80) (cs : List Char) :
    encode (c :: cs) = c.toUInt8 :: encode cs := by
  rw [encode_cons, utf8EncodeChar_of_lt h, List.singleton_append]

lemma toNat_toUInt8 {c : Char} (h : c.toNat < 0x80) : c.toUInt8.toNat = c.toNat := by
  rw [Char.toUInt8, UInt32.toNat_toUInt8]
  exact Nat.mod_eq_of_lt (Nat.lt_trans h (by decide))

/-- Every byte of a character outside ASCII lies above ASCII. -/
lemma le_of_mem_utf8EncodeChar {c : Char} (h : 0x80 ≤ c.toNat) {b : UInt8}
    (hb : b ∈ String.utf8EncodeChar c) : 0x80 ≤ b.toNat := by
  have hbyte (lead m n : Nat) (hm : 0 < m) (hlead : 0x80 ≤ lead) (hbound : lead + m ≤ 0x100) :
      0x80 ≤ (UInt8.ofNat (n % m + lead)).toNat := by
    have hrest := Nat.mod_lt n hm
    rw [UInt8.toNat_ofNat', Nat.mod_eq_of_lt (by omega)]
    omega
  have hle : ¬ c.val.toNat ≤ 0x7f := Nat.not_le.mpr h
  rw [String.utf8EncodeChar, if_neg hle] at hb
  split at hb
  · simp only [List.mem_cons, List.not_mem_nil, or_false] at hb
    rcases hb with rfl | rfl <;> exact hbyte _ _ _ (by decide) (by decide) (by decide)
  · split at hb
    · simp only [List.mem_cons, List.not_mem_nil, or_false] at hb
      rcases hb with rfl | rfl | rfl <;> exact hbyte _ _ _ (by decide) (by decide) (by decide)
    · simp only [List.mem_cons, List.not_mem_nil, or_false] at hb
      rcases hb with rfl | rfl | rfl | rfl <;>
        exact hbyte _ _ _ (by decide) (by decide) (by decide)

lemma ne_toUInt8_of_le {b : UInt8} (hb : 0x80 ≤ b.toNat) {c : Char} (hc : c.toNat < 0x80) :
    b ≠ c.toUInt8 := by
  rintro rfl
  rw [toNat_toUInt8 hc] at hb
  omega

/-- The bytes of a character after its first one lie above ASCII. -/
lemma exists_utf8EncodeChar (c : Char) : ∃ b more, String.utf8EncodeChar c = b :: more ∧
    ∀ d ∈ more, 0x80 ≤ d.toNat := by
  by_cases hc : c.toNat < 0x80
  · exact ⟨_, _, utf8EncodeChar_of_lt hc, by simp⟩
  · obtain ⟨b, more, hbytes⟩ := List.exists_cons_of_ne_nil (@String.utf8EncodeChar_ne_nil c)
    refine ⟨b, more, hbytes, fun d hd => le_of_mem_utf8EncodeChar (Nat.le_of_not_lt hc) ?_⟩
    rw [hbytes]
    exact List.mem_cons_of_mem b hd

/-- An ASCII byte among the bytes of a character is the character. -/
lemma toUInt8_mem_utf8EncodeChar_iff {c d : Char} (hd : d.toNat < 0x80) :
    d.toUInt8 ∈ String.utf8EncodeChar c ↔ c = d := by
  constructor
  · intro hmem
    by_cases hc : c.toNat < 0x80
    · rw [utf8EncodeChar_of_lt hc, List.mem_singleton] at hmem
      have hnumber := congrArg UInt8.toNat hmem
      rw [toNat_toUInt8 hd, toNat_toUInt8 hc] at hnumber
      rw [← Char.ofNat_toNat c, ← hnumber, Char.ofNat_toNat]
    · have hle := le_of_mem_utf8EncodeChar (Nat.le_of_not_lt hc) hmem
      rw [toNat_toUInt8 hd] at hle
      omega
  · rintro rfl
    rw [utf8EncodeChar_of_lt hd]
    exact List.mem_singleton_self _

lemma head?_of_head?_encode {cs : List Char} {c : Char} (hc : c.toNat < 0x80)
    (h : (encode cs).head? = some c.toUInt8) : cs.head? = some c := by
  cases cs with
  | nil => cases h
  | cons d cs =>
    obtain ⟨b, more, hbytes, -⟩ := exists_utf8EncodeChar d
    rw [encode_cons, hbytes, List.cons_append, List.head?_cons, Option.some.injEq] at h
    have hmem : c.toUInt8 ∈ String.utf8EncodeChar d := by
      rw [hbytes, h]
      exact List.mem_cons_self
    rw [List.head?_cons, (toUInt8_mem_utf8EncodeChar_iff hc).mp hmem]

end LanguageServer.Text
