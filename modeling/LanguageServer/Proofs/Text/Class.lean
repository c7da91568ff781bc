import Mathlib.Data.List.TakeWhile
import Mathlib.Tactic.Common
import LanguageServer.Text.Class

/-!
# How the classes of characters lie to each other

What begins a name also continues one, and no blank is a word character (`isWord_of_isBlank`).  The
second is a fact about two tables: it is read off for each of the blanks.

Trimming leaves a text as it is exactly when no blank stands at either end of it
(`trim_eq_self_iff`).
-/

namespace LanguageServer.Text

variable {c : Char}

lemma isNamePart_of_isNameStart (h : isNameStart c = true) : isNamePart c = true := by
  simp only [isNameStart, Bool.or_eq_true] at h
  simp only [isNamePart, Char.isAlphanum, Bool.or_eq_true]
  exact h.imp_left Or.inl

lemma lt_of_isNamePart (h : isNamePart c = true) : c.toNat < 0x80 := by
  rw [isNamePart, Bool.or_eq_true, beq_iff_eq] at h
  rcases h with h | rfl
  · delta Char.isAlphanum Char.isAlpha Char.isUpper Char.isLower Char.isDigit at h
    simp [UInt32.le_iff_toNat_le] at h
    omega
  · decide

lemma lt_of_isLookupPart (h : isLookupPart c = true) : c.toNat < 0x80 := by
  rw [isLookupPart, Bool.or_eq_true, Bool.or_eq_true, beq_iff_eq, beq_iff_eq] at h
  rcases h with (h | rfl) | rfl
  · exact lt_of_isNamePart h
  · decide
  · decide

lemma isWord_of_isNamePart (h : isNamePart c = true) : isWord c = true := by
  rw [isWord_eq_isNamePart (lt_of_isNamePart h), h]

/-- The numbers of the blanks. -/
def blankNumbers : List Nat :=
  [0x9, 0xa, 0xb, 0xc, 0xd, 0x20, 0x85, 0xa0, 0x1680, 0x2000, 0x2001, 0x2002, 0x2003, 0x2004,
    0x2005, 0x2006, 0x2007, 0x2008, 0x2009, 0x200a, 0x2028, 0x2029, 0x202f, 0x205f, 0x3000]

lemma mem_blankNumbers (h : isBlank c = true) : c.toNat ∈ blankNumbers := by
  simp only [isBlank, Bool.or_eq_true, Bool.and_eq_true, decide_eq_true_eq, beq_iff_eq] at h
  simp only [blankNumbers, List.mem_cons, List.not_mem_nil, or_false]
  omega

lemma isWord_of_isBlank (h : isBlank c = true) : isWord c = false := by
  have hall : ∀ n ∈ blankNumbers, isWord (Char.ofNat n) = false := by decide +kernel
  have hc := hall c.toNat (mem_blankNumbers h)
  rwa [Char.ofNat_toNat] at hc

lemma isNamePart_of_isBlank (h : isBlank c = true) : isNamePart c = false := by
  have hall : ∀ n ∈ blankNumbers, isNamePart (Char.ofNat n) = false := by decide +kernel
  have hc := hall c.toNat (mem_blankNumbers h)
  rwa [Char.ofNat_toNat] at hc

lemma lt_of_isPlainBlank (h : isPlainBlank c = true) : c.toNat < 0x80 := by
  simp only [isPlainBlank, Bool.or_eq_true, beq_iff_eq] at h
  rcases h with (((rfl | rfl) | rfl) | rfl) | rfl <;> decide

/-! ## Trimming -/

lemma isBlankText_spaces (n : Nat) : isBlankText (List.replicate n ' ') = true := by
  rw [isBlankText, List.all_eq_true]
  intro c hc
  rw [(List.mem_replicate.mp hc).2]
  decide

lemma trim_space (cs : List Char) : trim (' ' :: cs) = trim cs := by
  rw [trim, trimStart, List.dropWhile_cons_of_pos (by decide), ← trimStart, ← trim]

/-- Trimming takes everything away from blanks only. -/
lemma trim_eq_nil_iff (cs : List Char) : trim cs = [] ↔ isBlankText cs = true := by
  have hend : ∀ ds : List Char, trimEnd ds = [] ↔ isBlankText ds = true := by
    intro ds
    rw [trimEnd, List.reverse_eq_nil_iff, List.dropWhile_eq_nil_iff, isBlankText, List.all_eq_true]
    simp only [List.mem_reverse]
  rw [trim, hend, isBlankText, isBlankText, List.all_eq_true, List.all_eq_true, trimStart]
  constructor
  · intro h c hc
    rw [← List.takeWhile_append_dropWhile (p := isBlank) (l := cs), List.mem_append] at hc
    rcases hc with hc | hc
    · exact List.all_eq_true.mp List.all_takeWhile c hc
    · exact h c hc
  · intro h c hc
    exact h c ((List.dropWhile_suffix isBlank).subset hc)

/-- What is taken away from both ends of a list for as long as it is of a class. -/
lemma exists_ends {α : Type} (part : α → Bool) (cs : List α) :
    ∃ lead rest, cs = lead ++ ((cs.dropWhile part).reverse.dropWhile part).reverse ++ rest ∧
      (∀ c ∈ lead, part c = true) ∧ ∀ c ∈ rest, part c = true := by
  refine ⟨cs.takeWhile part, ((cs.dropWhile part).reverse.takeWhile part).reverse, ?_, ?_, ?_⟩
  · rw [List.append_assoc, ← List.reverse_append, List.takeWhile_append_dropWhile,
      List.reverse_reverse, List.takeWhile_append_dropWhile]
  · exact fun c hc => List.all_eq_true.mp List.all_takeWhile c hc
  · exact fun c hc => List.all_eq_true.mp List.all_takeWhile c (List.mem_reverse.mp hc)

lemma trim_append_blanks {lead rest : List Char} (hlead : ∀ c ∈ lead, isBlank c = true)
    (hrest : ∀ c ∈ rest, isBlank c = true) (cs : List Char) :
    trim (lead ++ cs ++ rest) = trim cs := by
  rw [List.append_assoc, trim, trimStart, List.dropWhile_append_of_pos hlead,
    List.dropWhile_append, trim, trimStart]
  split
  · rename_i hempty
    rw [List.isEmpty_iff.mp hempty, List.dropWhile_eq_nil_iff.mpr hrest]
  · rw [trimEnd, List.reverse_append, List.dropWhile_append_of_pos, trimEnd]
    exact fun c hc => hrest c (List.mem_reverse.mp hc)

/-- What is no blank stays. -/
lemma count_trim {c : Char} (hc : isBlank c = false) (cs : List Char) :
    (trim cs).count c = cs.count c := by
  obtain ⟨lead, rest, hcs, hlead, hrest⟩ := exists_ends isBlank cs
  have hnone {blanks : List Char} (hblanks : ∀ d ∈ blanks, isBlank d = true) :
      blanks.count c = 0 :=
    List.count_eq_zero_of_not_mem fun hmem => absurd (hblanks c hmem) (Bool.eq_false_iff.mp hc)
  conv => rhs; rw [hcs]
  rw [List.count_append, List.count_append, hnone hlead, hnone hrest, Nat.zero_add, Nat.add_zero]
  rfl

lemma mem_of_mem_trim {cs : List Char} {c : Char} (h : c ∈ trim cs) : c ∈ cs := by
  rw [trim, trimEnd, List.mem_reverse] at h
  have hstart := (List.dropWhile_suffix isBlank).subset h
  exact (List.dropWhile_suffix isBlank).subset (List.mem_reverse.mp hstart)

lemma dropWhile_isBlank_eq_self_iff (cs : List Char) :
    cs.dropWhile isBlank = cs ↔ ∀ c ∈ cs.head?, isBlank c = false := by
  cases cs with
  | nil => simp
  | cons c cs =>
    rw [List.dropWhile_cons]
    constructor
    · intro h d hd
      obtain rfl : c = d := by simpa using hd
      by_contra hblank
      rw [if_pos (by simpa using hblank)] at h
      have hlength := (List.dropWhile_suffix (l := cs) isBlank).length_le
      rw [h, List.length_cons] at hlength
      omega
    · intro h
      rw [if_neg (by simp [h c rfl])]

lemma trim_eq_self_iff (cs : List Char) :
    trim cs = cs ↔
      (∀ c ∈ cs.head?, isBlank c = false) ∧ ∀ c ∈ cs.getLast?, isBlank c = false := by
  have hend : trimEnd cs = cs ↔ ∀ c ∈ cs.getLast?, isBlank c = false := by
    rw [trimEnd, List.reverse_eq_iff, dropWhile_isBlank_eq_self_iff, List.head?_reverse]
  rw [← dropWhile_isBlank_eq_self_iff, ← hend, ← trimStart]
  constructor
  · intro h
    -- Both ends can only take characters away, so neither takes any.
    have hlength := congrArg List.length h
    have hstart := (List.dropWhile_suffix (l := cs) isBlank).length_le
    have hstop := (List.dropWhile_suffix (l := (trimStart cs).reverse) isBlank).length_le
    rw [trim, trimEnd, List.length_reverse] at hlength
    rw [List.length_reverse, hlength] at hstop
    have hsame : trimStart cs = cs :=
      (List.dropWhile_suffix isBlank).eq_of_length (by rw [← trimStart] at hstart ⊢; omega)
    rw [trim, hsame] at h
    exact ⟨hsame, h⟩
  · rintro ⟨hstart, hstop⟩
    rw [trim, hstart, hstop]

end LanguageServer.Text
