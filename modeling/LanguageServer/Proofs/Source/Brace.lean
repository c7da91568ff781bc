import Mathlib.Tactic.Common
import LanguageServer.Source.Brace

/-!
# Braces without a partner

Read from left to right, a closing brace is the partner of the last opening brace before it that has
none yet.  `unpaired` counts the braces of a line that are left over.

Taking blocks out of a line, however often, changes nothing about them (`unpaired_dropBlocks`), and
when no block is left every brace of the line is one of them (`unpaired_eq_of_fixed`).  The braces
that remain in `dropBlocks` are therefore exactly the unpaired ones (`count_dropBlocks`).  Since a
pair consists of one brace of each kind, the line as a whole opens and closes as much as its
unpaired braces do (`opening_sub_closing`).
-/

namespace LanguageServer.Source

/-- The braces without a partner in a text. -/
structure Unpaired where
  /-- The closing braces before which no opening brace was left. -/
  closing : Nat
  /-- The opening braces that no closing brace followed. -/
  opening : Nat
deriving DecidableEq, Repr

/-- The braces without a partner after one more character. -/
def Unpaired.next (u : Unpaired) (c : Char) : Unpaired :=
  if c = '{' then { u with opening := u.opening + 1 }
  else if c = '}' then
    if u.opening = 0 then { u with closing := u.closing + 1 }
    else { u with opening := u.opening - 1 }
  else u

/-- The braces without a partner in the text, which is read from left to right. -/
def unpaired (cs : List Char) : Unpaired :=
  cs.foldl Unpaired.next ⟨0, 0⟩

/-! ## Blocks -/

variable {cs : List Char}

lemma foldl_next_plain {plain : List Char} (hplain : ∀ c ∈ plain, c ≠ '{' ∧ c ≠ '}')
    (u : Unpaired) : plain.foldl Unpaired.next u = u := by
  induction plain with
  | nil => rfl
  | cons c plain ih =>
    obtain ⟨hopen, hclose⟩ := hplain c List.mem_cons_self
    rw [List.foldl_cons, Unpaired.next, if_neg hopen, if_neg hclose]
    exact ih fun d hd => hplain d (List.mem_cons_of_mem c hd)

lemma unpaired_plain_append {plain : List Char} (hopen : '{' ∉ plain) (hclose : '}' ∉ plain)
    (cs : List Char) : unpaired (plain ++ cs) = unpaired cs := by
  have hplain : ∀ c ∈ plain, c ≠ '{' ∧ c ≠ '}' := by
    intro c hc
    constructor
    · rintro rfl
      exact hopen hc
    · rintro rfl
      exact hclose hc
  rw [unpaired, List.foldl_append, foldl_next_plain hplain, ← unpaired]

lemma unpaired_plain {plain : List Char} (hopen : '{' ∉ plain) (hclose : '}' ∉ plain) :
    unpaired plain = ⟨0, 0⟩ := by
  have h := unpaired_plain_append hopen hclose []
  rwa [List.append_nil] at h

/-- The text that a scan holds back is empty, or it may turn out to be a block. -/
def MayBeBlock (held : List Char) : Prop :=
  held = [] ∨ ∃ plain, held.reverse = '{' :: plain ∧ ∀ c ∈ plain, c ≠ '{' ∧ c ≠ '}'

/-- To a reading of texts, character by character, a block without braces inside is as good as
nothing. -/
def PassesBlocks {σ : Type} (next : σ → Char → σ) : Prop :=
  ∀ plain : List Char, (∀ c ∈ plain, c ≠ '{' ∧ c ≠ '}') →
    ∀ u, ('{' :: plain ++ ['}']).foldl next u = u

lemma passesBlocks_next : PassesBlocks Unpaired.next := by
  intro plain hplain u
  have hblock : ((u.next '{').next '}') = u := by simp [Unpaired.next]
  rw [List.cons_append, List.foldl_cons, List.foldl_append, foldl_next_plain hplain,
    List.foldl_cons, List.foldl_nil, hblock]

section Reading

variable {σ : Type} {next : σ → Char → σ} (hnext : PassesBlocks next)

include hnext

lemma foldl_dropInnermostFrom {held : List Char} (hheld : MayBeBlock held) (u : σ) :
    (dropInnermostFrom held cs).foldl next u = (held.reverse ++ cs).foldl next u := by
  fun_induction dropInnermostFrom held cs generalizing u with
  | case1 held => rw [List.append_nil]
  | case2 held cs ih =>
    rw [List.foldl_append, List.foldl_append, ih (.inr ⟨[], rfl, by simp⟩)]
    rfl
  | case3 c cs _ ih => exact ih (.inl rfl) (next u c)
  | case4 h held cs ih =>
    rcases hheld with hnil | ⟨plain, hreverse, hplain⟩
    · cases hnil
    · rw [ih (.inl rfl), List.reverse_nil, List.nil_append, hreverse, List.append_cons,
        List.foldl_append, hnext plain hplain]
  | case5 h held c cs hopen hclose ih =>
    rcases hheld with hnil | ⟨plain, hreverse, hplain⟩
    · cases hnil
    · have hlonger : MayBeBlock (c :: h :: held) := by
        refine .inr ⟨plain ++ [c], by rw [List.reverse_cons, hreverse]; rfl, ?_⟩
        intro d hd
        rcases List.mem_append.mp hd with hd | hd
        · exact hplain d hd
        · rw [List.mem_singleton.mp hd]
          exact ⟨hopen, hclose⟩
      rw [ih hlonger, List.reverse_cons, List.append_assoc]
      rfl

/-- **Taking out blocks changes nothing for a reading that passes over them.** -/
lemma foldl_dropBlocks (cs : List Char) (u : σ) :
    (dropBlocks cs).foldl next u = cs.foldl next u := by
  fun_induction dropBlocks cs with
  | case1 => rfl
  | case2 cs hchanged ih =>
    rw [ih]
    exact foldl_dropInnermostFrom hnext (.inl rfl) u

end Reading

lemma unpaired_dropBlocks (cs : List Char) : unpaired (dropBlocks cs) = unpaired cs :=
  foldl_dropBlocks passesBlocks_next cs ⟨0, 0⟩

/-! ## Lines without blocks -/

lemma dropInnermost_dropBlocks (cs : List Char) :
    dropInnermost (dropBlocks cs) = dropBlocks cs := by
  fun_induction dropBlocks cs with
  | case1 cs hfixed => exact hfixed
  | case2 cs hchanged ih => exact ih

/-- When a scan that holds an opening brace back takes nothing out, no closing brace follows. -/
lemma notMem_of_dropInnermostFrom_eq {held : List Char} (hheld : held ≠ [])
    (h : dropInnermostFrom held cs = held.reverse ++ cs) : '}' ∉ cs := by
  fun_induction dropInnermostFrom held cs with
  | case1 held => simp
  | case2 held cs ih =>
    have hrest := List.append_cancel_left h
    simpa using ih (by simp) hrest
  | case3 => exact absurd rfl hheld
  | case4 first held cs ih =>
    have hlength := congrArg List.length h
    rcases dropInnermostFrom_eq_or_shorter [] cs with e | e
    · rw [e] at hlength
      simp at hlength
      omega
    · simp at hlength e
      omega
  | case5 first held c cs hopen hclose ih =>
    have hrest := ih (by simp) (by rw [h]; simp)
    simpa [Ne.symm hclose] using hrest

lemma foldl_next_of_notMem (hclose : '}' ∉ cs) (u : Unpaired) :
    cs.foldl Unpaired.next u = { u with opening := u.opening + cs.count '{' } := by
  induction cs generalizing u with
  | nil => rfl
  | cons c cs ih =>
    rw [List.mem_cons, not_or] at hclose
    rw [List.foldl_cons, ih hclose.2]
    by_cases hopen : c = '{'
    · rw [Unpaired.next, if_pos hopen, hopen, List.count_cons_self, Nat.add_right_comm,
        Nat.add_assoc]
    · rw [Unpaired.next, if_neg hopen, if_neg (Ne.symm hclose.1), List.count_cons_of_ne hopen]

lemma dropInnermost_tail {c : Char} (hopen : c ≠ '{')
    (h : dropInnermost (c :: cs) = c :: cs) : dropInnermost cs = cs := by
  rw [dropInnermost, dropInnermostFrom] at h
  · exact (List.cons.inj h).2
  · exact hopen

lemma foldl_next_of_fixed (h : dropInnermost cs = cs) (closed : Nat) :
    cs.foldl Unpaired.next ⟨closed, 0⟩ = ⟨closed + cs.count '}', cs.count '{'⟩ := by
  induction cs generalizing closed with
  | nil => rfl
  | cons c cs ih =>
    by_cases hopen : c = '{'
    · subst hopen
      have hclose : '}' ∉ cs := notMem_of_dropInnermostFrom_eq (by simp) h
      rw [List.foldl_cons, foldl_next_of_notMem hclose, List.count_cons_of_ne (by decide),
        List.count_eq_zero.mpr hclose]
      simp [Unpaired.next, Nat.add_comm]
    · have htail := dropInnermost_tail hopen h
      by_cases hclose : c = '}'
      · subst hclose
        rw [List.foldl_cons, Unpaired.next, if_neg hopen, if_pos rfl, if_pos rfl, ih htail,
          List.count_cons_self, List.count_cons_of_ne hopen, Nat.add_right_comm, Nat.add_assoc]
      · rw [List.foldl_cons, Unpaired.next, if_neg hopen, if_neg hclose, ih htail,
          List.count_cons_of_ne hopen, List.count_cons_of_ne hclose]

lemma unpaired_eq_of_fixed (h : dropInnermost cs = cs) :
    unpaired cs = ⟨cs.count '}', cs.count '{'⟩ := by
  rw [unpaired, foldl_next_of_fixed h, Nat.zero_add]

/-- **The braces that are left when all blocks are taken out** are those without a partner. -/
lemma count_dropBlocks (cs : List Char) :
    (dropBlocks cs).count '}' = (unpaired cs).closing ∧
      (dropBlocks cs).count '{' = (unpaired cs).opening := by
  rw [← unpaired_dropBlocks, unpaired_eq_of_fixed (dropInnermost_dropBlocks cs)]
  exact ⟨rfl, rfl⟩

/-! ## Balance -/

lemma opening_sub_closing_foldl (cs : List Char) (u : Unpaired) :
    ((cs.foldl Unpaired.next u).opening : Int) - (cs.foldl Unpaired.next u).closing =
      u.opening - u.closing + (cs.count '{' - cs.count '}') := by
  induction cs generalizing u with
  | nil => simp
  | cons c cs ih =>
    have hnext : ((u.next c).opening : Int) - (u.next c).closing =
        u.opening - u.closing + (if c = '{' then 1 else 0) - (if c = '}' then 1 else 0) := by
      by_cases hopen : c = '{'
      · simp [Unpaired.next, hopen]
        omega
      · by_cases hclose : c = '}'
        · by_cases hzero : u.opening = 0
          · simp [Unpaired.next, hclose, hzero]
            omega
          · simp [Unpaired.next, hclose, hzero]
            omega
        · simp [Unpaired.next, hopen, hclose]
    rw [List.foldl_cons, ih, hnext, List.count_cons, List.count_cons]
    by_cases hopen : c = '{'
    · simp [hopen]
      omega
    · by_cases hclose : c = '}'
      · simp [hclose]
        omega
      · simp [hopen, hclose]

/-- A line opens as many blocks more than it closes as its braces without a partner do. -/
lemma opening_sub_closing (cs : List Char) :
    ((unpaired cs).opening : Int) - (unpaired cs).closing = cs.count '{' - cs.count '}' := by
  rw [unpaired, opening_sub_closing_foldl]
  simp

end LanguageServer.Source
