import Mathlib.Tactic.Common
import LanguageServer.Text.Measure

/-!
# Cuts by bytes and by columns

A place in a text can be given by the characters, by the bytes or by the UTF-16 units before it.
This file relates the three.  A cut by bytes at the byte length of a beginning gives back that
beginning and what follows it (`takeBytes_byteLength_take`, `dropBytes_byteLength_take`), so an
offset in bytes and one in characters denote the same place as soon as the first is the byte length
of as many characters as the second says.

Columns are read as numbers of characters by `columnChars`, and the bytes before a column are those
of as many characters (`columnBytes_eq`).  A column that does not lie past the end of a line is read
without looking at what follows the line (`columnChars_append_of_le`), and one that does is read in
what follows (`columnChars_add`).
-/

namespace LanguageServer.Text

/-! ## Bytes -/

lemma takeBytes_byteLength_append (cs ds : List Char) :
    takeBytes (byteLength cs) (cs ++ ds) = cs := by
  induction cs with
  | nil =>
    cases ds with
    | nil => rfl
    | cons d ds =>
      have hd : ¬ d.utf8Size ≤ 0 := Nat.not_le.mpr d.utf8Size_pos
      simp [takeBytes, hd]
  | cons c cs ih =>
    have hc : c.utf8Size ≤ c.utf8Size + byteLength cs := Nat.le_add_right _ _
    rw [List.cons_append, byteLength_cons, takeBytes, if_pos hc, Nat.add_sub_cancel_left, ih]

lemma dropBytes_byteLength_append (cs ds : List Char) :
    dropBytes (byteLength cs) (cs ++ ds) = ds := by
  have hcut := takeBytes_append_dropBytes (byteLength cs) (cs ++ ds)
  rw [takeBytes_byteLength_append] at hcut
  exact List.append_cancel_left hcut

lemma takeBytes_byteLength_take (n : Nat) (cs : List Char) :
    takeBytes (byteLength (cs.take n)) cs = cs.take n := by
  have h := takeBytes_byteLength_append (cs.take n) (cs.drop n)
  rwa [List.take_append_drop] at h

lemma dropBytes_byteLength_take (n : Nat) (cs : List Char) :
    dropBytes (byteLength (cs.take n)) cs = cs.drop n := by
  have h := dropBytes_byteLength_append (cs.take n) (cs.drop n)
  rwa [List.take_append_drop] at h

lemma byteLength_takeBytes_le (n : Nat) (cs : List Char) : byteLength (takeBytes n cs) ≤ n := by
  fun_induction takeBytes n cs with
  | case1 => exact Nat.zero_le _
  | case2 n c cs hc ih =>
    rw [byteLength_cons]
    omega
  | case3 => exact Nat.zero_le _

/-- A cut could not take one more character. -/
lemma lt_of_mem_head?_dropBytes (n : Nat) (cs : List Char) :
    ∀ c ∈ (dropBytes n cs).head?, n < byteLength (takeBytes n cs) + c.utf8Size := by
  fun_induction takeBytes n cs with
  | case1 => simp [dropBytes]
  | case2 n c cs hc ih =>
    rw [dropBytes, if_pos hc]
    intro d hd
    have hrest := ih d hd
    rw [byteLength_cons]
    omega
  | case3 n c cs hc =>
    rw [dropBytes, if_neg hc]
    intro d hd
    obtain rfl : c = d := by simpa using hd
    rw [byteLength_nil]
    omega

/-- A cut past a beginning takes it, and cuts what follows it. -/
lemma takeBytes_add (cs ds : List Char) (n : Nat) :
    takeBytes (byteLength cs + n) (cs ++ ds) = cs ++ takeBytes n ds := by
  induction cs with
  | nil => rw [byteLength_nil, Nat.zero_add, List.nil_append, List.nil_append]
  | cons c cs ih =>
    have hrest : c.utf8Size + byteLength cs + n - c.utf8Size = byteLength cs + n := by omega
    rw [List.cons_append, byteLength_cons, takeBytes, if_pos (by omega), hrest, ih,
      List.cons_append]

lemma takeBytes_append_of_le {cs : List Char} {n : Nat} (hn : n ≤ byteLength cs)
    (ds : List Char) : takeBytes n (cs ++ ds) = takeBytes n cs := by
  induction cs generalizing n with
  | nil =>
    obtain rfl : n = 0 := Nat.le_zero.mp hn
    exact takeBytes_byteLength_append [] ds
  | cons c cs ih =>
    rw [byteLength_cons] at hn
    rw [List.cons_append, takeBytes, takeBytes]
    split
    · rw [ih (by omega)]
    · rfl

lemma byteLength_take_mono {m n : Nat} (hmn : m ≤ n) (cs : List Char) :
    byteLength (cs.take m) ≤ byteLength (cs.take n) := by
  obtain ⟨k, rfl⟩ := Nat.exists_eq_add_of_le hmn
  rw [List.take_add, byteLength_append]
  exact Nat.le_add_right _ _

/-! ## Columns -/

lemma unitLength_append (cs ds : List Char) :
    unitLength (cs ++ ds) = unitLength cs + unitLength ds := by
  induction cs with
  | nil => simp [unitLength]
  | cons c cs ih => rw [List.cons_append, unitLength, ih, unitLength, Nat.add_assoc]

lemma columnChars_le_length (column : Nat) (cs : List Char) :
    columnChars column cs ≤ cs.length := by
  fun_induction columnChars column cs with
  | case1 => simp
  | case2 => simp
  | case3 column c cs ih =>
    rw [List.length_cons]
    omega

lemma columnChars_mono {column column' : Nat} (hle : column ≤ column') (cs : List Char) :
    columnChars column cs ≤ columnChars column' cs := by
  induction cs generalizing column column' with
  | nil => simp [columnChars]
  | cons c cs ih =>
    cases column with
    | zero => simp [columnChars]
    | succ column =>
      obtain ⟨column', rfl⟩ : ∃ k, column' = k + 1 := ⟨column' - 1, by omega⟩
      have htail := ih (Nat.sub_le_sub_right hle (charUnits c))
      simp only [columnChars]
      omega

lemma columnBytes_eq (column : Nat) (line : List Char) :
    columnBytes column line = byteLength (line.take (columnChars column line)) := by
  fun_induction columnBytes column line with
  | case1 => rfl
  | case2 => rfl
  | case3 column c cs ih =>
    rw [columnChars, Nat.add_comm 1, List.take_succ_cons, byteLength_cons, ih]

lemma columnBytes_mono {column column' : Nat} (h : column ≤ column') (line : List Char) :
    columnBytes column line ≤ columnBytes column' line := by
  rw [columnBytes_eq, columnBytes_eq]
  exact byteLength_take_mono (columnChars_mono h line) line

/-- A column that lies within a line is read without looking past the line. -/
lemma columnChars_append_of_le {column : Nat} {cs : List Char} (hle : column ≤ unitLength cs)
    (ds : List Char) : columnChars column (cs ++ ds) = columnChars column cs := by
  induction cs generalizing column with
  | nil =>
    have hzero : column = 0 := Nat.le_zero.mp hle
    subst hzero
    cases ds <;> rfl
  | cons c cs ih =>
    cases column with
    | zero => rfl
    | succ column =>
      have htail : column + 1 - charUnits c ≤ unitLength cs := by
        simp only [unitLength] at hle
        omega
      simp only [List.cons_append, columnChars, ih htail]

/-- A column past a beginning has that beginning before it, and as much of what follows as it lies
past it. -/
lemma columnChars_add (cs ds : List Char) (more : Nat) :
    columnChars (unitLength cs + more) (cs ++ ds) = cs.length + columnChars more ds := by
  induction cs with
  | nil => simp [unitLength]
  | cons c cs ih =>
    have hpos : 0 < charUnits c := by
      unfold charUnits
      split <;> omega
    obtain ⟨k, hk⟩ : ∃ k, unitLength (c :: cs) + more = k + 1 :=
      ⟨unitLength (c :: cs) + more - 1, by simp only [unitLength]; omega⟩
    have hrest : k + 1 - charUnits c = unitLength cs + more := by
      rw [← hk, unitLength]
      omega
    rw [hk, List.cons_append, columnChars, hrest, ih, List.length_cons]
    omega

lemma columnChars_unitLength (cs : List Char) : columnChars (unitLength cs) cs = cs.length := by
  have h := columnChars_add cs [] 0
  rwa [List.append_nil, columnChars, Nat.add_zero, Nat.add_zero] at h

/-- Where every character takes one unit, columns count characters. -/
lemma columnChars_of_charUnits {cs : List Char} (h : ∀ c ∈ cs, charUnits c = 1) (column : Nat) :
    columnChars column cs = min column cs.length := by
  induction cs generalizing column with
  | nil => simp [columnChars]
  | cons c cs ih =>
    rw [List.forall_mem_cons] at h
    cases column with
    | zero => simp [columnChars]
    | succ column =>
      rw [columnChars, h.1, Nat.add_sub_cancel, ih h.2, List.length_cons]
      omega

lemma take_columnChars_unitLength (cs ds : List Char) :
    (cs ++ ds).take (columnChars (unitLength cs) (cs ++ ds)) = cs := by
  rw [columnChars_append_of_le (Nat.le_refl _), columnChars_unitLength, List.take_left]

/-- The characters that a column of a line has before it, in the line and with anything after the
line. -/
lemma take_columnChars_append {column : Nat} {cs : List Char} (hle : column ≤ unitLength cs)
    (ds : List Char) :
    (cs ++ ds).take (columnChars column (cs ++ ds)) = cs.take (columnChars column cs) := by
  rw [columnChars_append_of_le hle, List.take_append_of_le_length (columnChars_le_length _ _)]

end LanguageServer.Text
