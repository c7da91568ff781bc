import Mathlib.Tactic.Common
import LanguageServer.Proofs.Text.Bytes

/-!
# Reading back the bytes of a text

Bytes are always read as some text.  The bytes of a text are read as that text, also with other
bytes behind them (`decode_encode_append`).  Other bytes do not have a text of their own, but their
text shows it: the replacement character stands in it, and a text without one is read from its own
bytes only (`encode_decode`).  So a text tells its bytes if and only if no replacement stands in it
(`eq_of_decode_eq_iff`).

A character of several bytes begins with a byte that says how it goes on.  `Incomplete.Completes`
says which bytes complete it, and `Incomplete.value` which number they make.  What is announced in
this way (`Announced`) is what the bytes of a character look like, no less and no more.
-/

namespace LanguageServer.Text

/-! ## Incomplete characters -/

namespace Incomplete

variable {character : Incomplete} {b : UInt8} {more bytes : List UInt8}

/-- The character after one more byte. -/
def next (character : Incomplete) (b : UInt8) : Incomplete :=
  ⟨character.missing - 1, 0x80, 0xBF, character.bits * 64 + (b.toNat - 0x80)⟩

/-- The bytes are those that are missing. -/
def Completes : Incomplete → List UInt8 → Prop
  | _, [] => False
  | character, b :: more =>
    (character.low ≤ b.toNat ∧ b.toNat ≤ character.high) ∧
      if character.missing ≤ 1 then more = [] else (character.next b).Completes more

/-- The number of the character that the bytes complete. -/
def value (character : Incomplete) : List UInt8 → Nat
  | [] => character.bits
  | b :: more => (character.next b).value more

lemma completes_last (h : character.missing ≤ 1) :
    character.Completes more ↔
      ∃ b, more = [b] ∧ character.low ≤ b.toNat ∧ b.toNat ≤ character.high := by
  cases more with
  | nil => simp [Completes]
  | cons b more =>
    simp only [Completes, if_pos h, List.cons.injEq]
    constructor
    · rintro ⟨hrange, rfl⟩
      exact ⟨b, ⟨rfl, rfl⟩, hrange⟩
    · rintro ⟨_, ⟨rfl, rfl⟩, hrange⟩
      exact ⟨hrange, rfl⟩

lemma completes_more (h : 1 < character.missing) :
    character.Completes more ↔ ∃ b rest, more = b :: rest ∧
      (character.low ≤ b.toNat ∧ b.toNat ≤ character.high) ∧ (character.next b).Completes rest := by
  cases more with
  | nil => simp [Completes]
  | cons b more => simp [Completes, Nat.not_le.2 h]

lemma completes_one {low high bits : Nat} : Completes ⟨1, low, high, bits⟩ more ↔
    ∃ b, more = [b] ∧ low ≤ b.toNat ∧ b.toNat ≤ high :=
  completes_last (Nat.le_refl 1)

lemma completes_two {low high bits : Nat} : Completes ⟨2, low, high, bits⟩ more ↔
    ∃ b c, more = [b, c] ∧ (low ≤ b.toNat ∧ b.toNat ≤ high) ∧
      0x80 ≤ c.toNat ∧ c.toNat ≤ 0xBF := by
  rw [completes_more (Nat.lt_succ_self 1)]
  constructor
  · rintro ⟨b, _, rfl, hb, hrest⟩
    obtain ⟨c, rfl, hc⟩ := completes_one.1 hrest
    exact ⟨b, c, rfl, hb, hc⟩
  · rintro ⟨b, c, rfl, hb, hc⟩
    exact ⟨b, [c], rfl, hb, completes_one.2 ⟨c, rfl, hc⟩⟩

lemma completes_three {low high bits : Nat} : Completes ⟨3, low, high, bits⟩ more ↔
    ∃ b c d, more = [b, c, d] ∧ (low ≤ b.toNat ∧ b.toNat ≤ high) ∧
      (0x80 ≤ c.toNat ∧ c.toNat ≤ 0xBF) ∧ 0x80 ≤ d.toNat ∧ d.toNat ≤ 0xBF := by
  rw [completes_more (Nat.one_lt_succ_succ 1)]
  constructor
  · rintro ⟨b, _, rfl, hb, hrest⟩
    obtain ⟨c, d, rfl, hc, hd⟩ := completes_two.1 hrest
    exact ⟨b, c, d, rfl, hb, hc, hd⟩
  · rintro ⟨b, c, d, rfl, hb, hc, hd⟩
    exact ⟨b, [c, d], rfl, hb, completes_two.2 ⟨c, d, rfl, hc, hd⟩⟩

lemma decodeFrom_cons (h : character.low ≤ b.toNat ∧ b.toNat ≤ character.high) :
    decodeFrom (some character) (b :: bytes) =
      if character.missing ≤ 1 then
        Char.ofNat (character.next b).bits :: decodeFrom none bytes
      else decodeFrom (some (character.next b)) bytes := by
  have hrange : (decide (character.low ≤ b.toNat) && decide (b.toNat ≤ character.high)) = true := by
    simp [h]
  simp only [decodeFrom, hrange, if_true]
  rfl

/-- Bytes that complete a character are read as the character. -/
lemma Completes.decodeFrom (h : character.Completes more) (bytes : List UInt8) :
    decodeFrom (some character) (more ++ bytes) =
      Char.ofNat (character.value more) :: Text.decodeFrom none bytes := by
  induction more generalizing character with
  | nil => exact h.elim
  | cons b more ih =>
    obtain ⟨hrange, hmore⟩ := h
    rw [List.cons_append, decodeFrom_cons hrange]
    split at hmore
    next hlast => rw [if_pos hlast, hmore]; rfl
    next hlast => rw [if_neg hlast, ih hmore]; rfl

/-- Where no replacement is read, the character is completed. -/
lemma exists_completes_of_decodeFrom (h : replacement ∉ Text.decodeFrom (some character) bytes) :
    ∃ more rest, bytes = more ++ rest ∧ character.Completes more := by
  induction bytes generalizing character with
  | nil => exact absurd (List.mem_singleton_self _) h
  | cons b bytes ih =>
    by_cases hrange : character.low ≤ b.toNat ∧ b.toNat ≤ character.high
    · rw [decodeFrom_cons hrange] at h
      by_cases hlast : character.missing ≤ 1
      · exact ⟨[b], bytes, rfl, hrange, by rw [if_pos hlast]⟩
      · rw [if_neg hlast] at h
        obtain ⟨more, rest, rfl, hmore⟩ := ih h
        exact ⟨b :: more, rest, rfl, hrange, by rwa [if_neg hlast]⟩
    · refine absurd ?_ h
      have hout : (decide (character.low ≤ b.toNat) && decide (b.toNat ≤ character.high)) =
          false := by
        simpa [Bool.and_eq_false_imp] using hrange
      simp only [Text.decodeFrom, hout, Bool.false_eq_true, if_false]
      exact List.mem_cons_self

end Incomplete

/-! ## The bytes of a character -/

lemma utf8EncodeChar_ofNat {n : Nat} (h : n.isValidChar) :
    String.utf8EncodeChar (Char.ofNat n) =
      if n ≤ 0x7F then [.ofNat n]
      else if n ≤ 0x7FF then [.ofNat (n / 64 % 0x20 + 0xC0), .ofNat (n % 0x40 + 0x80)]
      else if n ≤ 0xFFFF then
        [.ofNat (n / 4096 % 0x10 + 0xE0), .ofNat (n / 64 % 0x40 + 0x80), .ofNat (n % 0x40 + 0x80)]
      else
        [.ofNat (n / 262144 % 0x08 + 0xF0), .ofNat (n / 4096 % 0x40 + 0x80),
          .ofNat (n / 64 % 0x40 + 0x80), .ofNat (n % 0x40 + 0x80)] := by
  have hn : (Char.ofNat n).val.toNat = n := by
    rw [Char.ofNat, dif_pos h]
    rfl
  rw [String.utf8EncodeChar, hn]

lemma ofNat_eq_of_toNat {n : Nat} {b : UInt8} (h : n = b.toNat) : UInt8.ofNat n = b := by
  rw [h, UInt8.ofNat_toNat]

lemma utf8EncodeChar_two {a b : UInt8} (ha : 0xC2 ≤ a.toNat ∧ a.toNat < 0xE0)
    (hb : 0x80 ≤ b.toNat ∧ b.toNat ≤ 0xBF) :
    String.utf8EncodeChar (Char.ofNat ((a.toNat - 0xC0) * 64 + (b.toNat - 0x80))) = [a, b] := by
  rw [utf8EncodeChar_ofNat (.inl (by omega)), if_neg (by omega), if_pos (by omega),
    ofNat_eq_of_toNat (b := a) (by omega), ofNat_eq_of_toNat (b := b) (by omega)]

lemma utf8EncodeChar_three {a b c : UInt8} (ha : 0xE0 ≤ a.toNat ∧ a.toNat < 0xF0)
    (hb : 0x80 ≤ b.toNat ∧ b.toNat ≤ 0xBF) (hc : 0x80 ≤ c.toNat ∧ c.toNat ≤ 0xBF)
    (hlong : a.toNat = 0xE0 → 0xA0 ≤ b.toNat) (hsurrogate : a.toNat = 0xED → b.toNat ≤ 0x9F) :
    String.utf8EncodeChar (Char.ofNat
      (((a.toNat - 0xE0) * 64 + (b.toNat - 0x80)) * 64 + (c.toNat - 0x80))) = [a, b, c] := by
  have hvalid :
      (((a.toNat - 0xE0) * 64 + (b.toNat - 0x80)) * 64 + (c.toNat - 0x80)).isValidChar := by
    unfold Nat.isValidChar
    omega
  rw [utf8EncodeChar_ofNat hvalid, if_neg (by omega), if_neg (by omega), if_pos (by omega),
    ofNat_eq_of_toNat (b := a) (by omega), ofNat_eq_of_toNat (b := b) (by omega),
    ofNat_eq_of_toNat (b := c) (by omega)]

lemma utf8EncodeChar_four {a b c d : UInt8} (ha : 0xF0 ≤ a.toNat ∧ a.toNat ≤ 0xF4)
    (hb : 0x80 ≤ b.toNat ∧ b.toNat ≤ 0xBF) (hc : 0x80 ≤ c.toNat ∧ c.toNat ≤ 0xBF)
    (hd : 0x80 ≤ d.toNat ∧ d.toNat ≤ 0xBF)
    (hlong : a.toNat = 0xF0 → 0x90 ≤ b.toNat) (hlarge : a.toNat = 0xF4 → b.toNat ≤ 0x8F) :
    String.utf8EncodeChar (Char.ofNat
      ((((a.toNat - 0xF0) * 64 + (b.toNat - 0x80)) * 64 + (c.toNat - 0x80)) * 64 +
        (d.toNat - 0x80))) = [a, b, c, d] := by
  have hvalid : ((((a.toNat - 0xF0) * 64 + (b.toNat - 0x80)) * 64 + (c.toNat - 0x80)) * 64 +
      (d.toNat - 0x80)).isValidChar := by
    unfold Nat.isValidChar
    omega
  rw [utf8EncodeChar_ofNat hvalid, if_neg (by omega), if_neg (by omega), if_neg (by omega),
    ofNat_eq_of_toNat (b := a) (by omega), ofNat_eq_of_toNat (b := b) (by omega),
    ofNat_eq_of_toNat (b := c) (by omega), ofNat_eq_of_toNat (b := d) (by omega)]

/-! ## First bytes -/

lemma lead_of_lt {n : Nat} (h : n < 0x80) : lead n = .whole (Char.ofNat n) := by
  rw [lead, if_pos h]

lemma lead_two {n : Nat} (h : 0xC2 ≤ n ∧ n < 0xE0) :
    lead n = .begins ⟨1, 0x80, 0xBF, n - 0xC0⟩ := by
  rw [lead, if_neg (by omega), if_neg (by omega), if_pos h.2]

lemma lead_three {n : Nat} (h : 0xE0 ≤ n ∧ n < 0xF0) :
    lead n = .begins ⟨2, if n = 0xE0 then 0xA0 else 0x80, if n = 0xED then 0x9F else 0xBF,
      n - 0xE0⟩ := by
  rw [lead, if_neg (by omega), if_neg (by omega), if_neg (by omega)]
  split
  next hn => subst hn; rfl
  next =>
    split
    next hn => subst hn; rfl
    next => rw [if_pos h.2]

lemma lead_four {n : Nat} (h : 0xF0 ≤ n ∧ n ≤ 0xF4) :
    lead n = .begins ⟨3, if n = 0xF0 then 0x90 else 0x80, if n = 0xF4 then 0x8F else 0xBF,
      n - 0xF0⟩ := by
  rw [lead, if_neg (by omega), if_neg (by omega), if_neg (by omega), if_neg (by omega),
    if_neg (by omega), if_neg (by omega)]
  split
  next hn => subst hn; rfl
  next hn =>
    split
    next hlt => rw [if_neg (by omega)]
    next hlt =>
      obtain rfl : n = 0xF4 := by omega
      rfl

lemma whole_iff {n : Nat} {c : Char} : lead n = .whole c ↔ n < 0x80 ∧ Char.ofNat n = c := by
  constructor
  · intro h
    by_cases hn : n < 0x80
    · rw [lead_of_lt hn] at h
      cases h
      exact ⟨hn, rfl⟩
    · rw [lead, if_neg hn] at h
      repeat' split at h
      all_goals cases h
  · rintro ⟨hn, rfl⟩
    exact lead_of_lt hn

lemma bounds_of_begins {n : Nat} {character : Incomplete} (h : lead n = .begins character) :
    0xC2 ≤ n ∧ n ≤ 0xF4 := by
  refine ⟨Nat.le_of_not_lt fun hlow => ?_, Nat.le_of_not_lt fun hhigh => ?_⟩
  · by_cases hn : n < 0x80
    · rw [lead_of_lt hn] at h
      cases h
    · rw [lead, if_neg hn, if_pos hlow] at h
      cases h
  · rw [lead, if_neg (by omega), if_neg (by omega), if_neg (by omega), if_neg (by omega),
      if_neg (by omega), if_neg (by omega), if_neg (by omega), if_neg (by omega),
      if_neg (by omega)] at h
    cases h

/-- The bytes make the number: the first one announces a character, and the others complete it. -/
def Announced (n : Nat) (bytes : List UInt8) : Prop :=
  ∃ a character more, bytes = a :: more ∧ lead a.toNat = .begins character ∧
    character.Completes more ∧ character.value more = n

/-- **What a first byte announces is a character.** -/
lemma Announced.utf8EncodeChar_ofNat {n : Nat} {bytes : List UInt8} (h : Announced n bytes) :
    String.utf8EncodeChar (Char.ofNat n) = bytes := by
  obtain ⟨a, character, more, rfl, hlead, hmore, rfl⟩ := h
  have hbounds := bounds_of_begins hlead
  by_cases htwo : a.toNat < 0xE0
  · rw [lead_two ⟨hbounds.1, htwo⟩] at hlead
    cases hlead
    obtain ⟨b, rfl, hb⟩ := Incomplete.completes_one.1 hmore
    exact utf8EncodeChar_two ⟨hbounds.1, htwo⟩ hb
  by_cases hthree : a.toNat < 0xF0
  · have ha : 0xE0 ≤ a.toNat ∧ a.toNat < 0xF0 := ⟨Nat.le_of_not_lt htwo, hthree⟩
    rw [lead_three ha] at hlead
    cases hlead
    obtain ⟨b, c, rfl, ⟨hlow, hhigh⟩, hc⟩ := Incomplete.completes_two.1 hmore
    split at hlow <;> split at hhigh <;>
      exact utf8EncodeChar_three ha (by omega) hc (by omega) (by omega)
  · have ha : 0xF0 ≤ a.toNat ∧ a.toNat ≤ 0xF4 := ⟨Nat.le_of_not_lt hthree, hbounds.2⟩
    rw [lead_four ha] at hlead
    cases hlead
    obtain ⟨b, c, d, rfl, ⟨hlow, hhigh⟩, hc, hd⟩ := Incomplete.completes_three.1 hmore
    split at hlow <;> split at hhigh <;>
      exact utf8EncodeChar_four ha (by omega) hc hd (by omega) (by omega)

lemma announced_two {n : Nat} {a b : UInt8} (hn : 0x80 ≤ n ∧ n ≤ 0x7FF)
    (ha : a.toNat = n / 64 % 0x20 + 0xC0) (hb : b.toNat = n % 0x40 + 0x80) :
    Announced n [a, b] := by
  refine ⟨a, _, [b], rfl, lead_two (by omega),
    Incomplete.completes_one.2 ⟨b, rfl, by omega⟩, ?_⟩
  simp only [Incomplete.value, Incomplete.next]
  omega

lemma announced_three {n : Nat} {a b c : UInt8} (hn : 0x800 ≤ n ∧ n ≤ 0xFFFF)
    (hvalid : n < 0xD800 ∨ 0xDFFF < n) (ha : a.toNat = n / 4096 % 0x10 + 0xE0)
    (hb : b.toNat = n / 64 % 0x40 + 0x80) (hc : c.toNat = n % 0x40 + 0x80) :
    Announced n [a, b, c] := by
  refine ⟨a, _, [b, c], rfl, lead_three (by omega),
    Incomplete.completes_two.2 ⟨b, c, rfl, ?_, by omega⟩, ?_⟩
  · split <;> split <;> omega
  · simp only [Incomplete.value, Incomplete.next]
    omega

lemma announced_four {n : Nat} {a b c d : UInt8} (hn : 0x10000 ≤ n ∧ n < 0x110000)
    (ha : a.toNat = n / 262144 % 0x08 + 0xF0) (hb : b.toNat = n / 4096 % 0x40 + 0x80)
    (hc : c.toNat = n / 64 % 0x40 + 0x80) (hd : d.toNat = n % 0x40 + 0x80) :
    Announced n [a, b, c, d] := by
  refine ⟨a, _, [b, c, d], rfl, lead_four (by omega),
    Incomplete.completes_three.2 ⟨b, c, d, rfl, ?_, by omega, by omega⟩, ?_⟩
  · split <;> split <;> omega
  · simp only [Incomplete.value, Incomplete.next]
    omega

/-- **A character outside ASCII is announced by its first byte.** -/
lemma announced_utf8EncodeChar {c : Char} (h : 0x80 ≤ c.toNat) :
    Announced c.toNat (String.utf8EncodeChar c) := by
  have hbyte {n : Nat} (hn : n < 0x100) : (UInt8.ofNat n).toNat = n := by
    rw [UInt8.toNat_ofNat', Nat.mod_eq_of_lt hn]
  have hvalid : c.toNat < 0xD800 ∨ 0xDFFF < c.toNat ∧ c.toNat < 0x110000 := c.valid
  rw [String.utf8EncodeChar, Char.toNat_val, if_neg (by omega)]
  split
  · exact announced_two (by omega) (hbyte (by omega)) (hbyte (by omega))
  split
  · exact announced_three (by omega) (by omega) (hbyte (by omega)) (hbyte (by omega))
      (hbyte (by omega))
  · exact announced_four (by omega) (hbyte (by omega)) (hbyte (by omega)) (hbyte (by omega))
      (hbyte (by omega))

/-! ## Texts -/

/-- **The bytes of a text are read as the text**, whatever bytes follow. -/
lemma decode_encode_append (cs : List Char) (bytes : List UInt8) :
    decode (encode cs ++ bytes) = cs ++ decode bytes := by
  induction cs with
  | nil => rfl
  | cons c cs ih =>
    rw [encode_cons, List.append_assoc, List.cons_append, ← ih]
    generalize encode cs ++ bytes = rest
    by_cases hc : c.toNat < 0x80
    · rw [utf8EncodeChar_of_lt hc, List.singleton_append, decode, decodeFrom, toNat_toUInt8 hc,
        lead_of_lt hc]
      simp only [Char.ofNat_toNat]
      rfl
    · obtain ⟨a, character, more, hbytes, hlead, hmore, hvalue⟩ :=
        announced_utf8EncodeChar (Nat.le_of_not_lt hc)
      rw [hbytes, List.cons_append, decode, decodeFrom, hlead]
      simp only [hmore.decodeFrom, hvalue, Char.ofNat_toNat]
      rfl

lemma decode_encode (cs : List Char) : decode (encode cs) = cs := by
  have h := decode_encode_append cs []
  rwa [List.append_nil, decode, decode, decodeFrom, List.append_nil] at h

/-- **Bytes are those of their text**, if no replacement stands in it. -/
lemma encode_decode {bytes : List UInt8} (h : replacement ∉ decode bytes) :
    encode (decode bytes) = bytes := by
  -- a character takes several bytes, so the induction is on their number
  induction hlength : bytes.length using Nat.strongRecOn generalizing bytes with
  | ind length ih =>
    cases bytes with
    | nil => rfl
    | cons a bytes =>
      rw [decode, decodeFrom] at h ⊢
      cases hlead : lead a.toNat with
      | whole c =>
        simp only [hlead] at h ⊢
        obtain ⟨hlt, rfl⟩ := whole_iff.1 hlead
        have hshorter : bytes.length < length := by
          rw [← hlength, List.length_cons]
          omega
        have hrest := ih bytes.length hshorter (List.not_mem_of_not_mem_cons h) rfl
        rw [decode] at hrest
        rw [encode_cons, hrest, utf8EncodeChar_ofNat (.inl (by omega)), if_pos (by omega),
          ofNat_eq_of_toNat rfl, List.singleton_append]
      | begins character =>
        simp only [hlead] at h ⊢
        obtain ⟨more, rest, rfl, hmore⟩ := Incomplete.exists_completes_of_decodeFrom h
        rw [hmore.decodeFrom] at h ⊢
        have hshorter : rest.length < length := by
          rw [← hlength, List.length_cons, List.length_append]
          omega
        have hrest := ih rest.length hshorter (List.not_mem_of_not_mem_cons h) rfl
        rw [decode] at hrest
        have hbytes : Announced (character.value more) (a :: more) :=
          ⟨a, character, more, rfl, hlead, hmore, rfl⟩
        rw [encode_cons, hrest, hbytes.utf8EncodeChar_ofNat, List.cons_append]
      | invalid =>
        simp only [hlead] at h
        exact absurd List.mem_cons_self h

/-- A byte that begins no character is read as a replacement. -/
lemma decode_invalid (cs : List Char) (bytes : List UInt8) :
    decode (encode cs ++ 0xFF :: bytes) = cs ++ replacement :: decode bytes := by
  rw [decode_encode_append]
  rfl

/-- **A text tells its bytes if and only if no replacement stands in it.** -/
lemma eq_of_decode_eq_iff (bytes : List UInt8) :
    (∀ other, decode other = decode bytes → other = bytes) ↔ replacement ∉ decode bytes := by
  constructor
  · intro h hmem
    obtain ⟨cs, ds, hsplit⟩ := List.append_of_mem hmem
    have hproper : encode (cs ++ replacement :: ds) = bytes :=
      h _ ((decode_encode _).trans hsplit.symm)
    have hinvalid : encode cs ++ 0xFF :: encode ds = bytes := by
      refine h _ ?_
      rw [decode_invalid, decode_encode, hsplit]
    have hsame := hproper.trans hinvalid.symm
    rw [encode_append, encode_cons, List.append_cancel_left_eq] at hsame
    exact absurd (List.cons.inj hsame).1 (by decide)
  · intro h other hother
    rw [← encode_decode h, ← hother, encode_decode (hother ▸ h)]

end LanguageServer.Text
