import LanguageServer.Proofs.Text.Boundary

/-!
# The places that columns denote

A UTF-16 column denotes a place of a line: the first boundary between characters that has at least
as many units before it, and the end of the line when none has.  `columnChars` and `columnBytes`
look for this place in two loops of their own, one for edits, which count characters, and one for
queries, which count bytes.

Both go back to one equivalence: as long as a column lies within a line, the characters before it
are at most `n` exactly when the first `n` characters have that many units (`columnChars_le_iff`).
A column in the middle of a character of two units is thereby read as the place behind the character
by either loop (`column_conversions_exact`).
-/

namespace LanguageServer.Text

variable {column : Nat} {line : List Char}

/-! ## Characters before a column -/

lemma unitLength_take_le (count : Nat) (line : List Char) :
    unitLength (line.take count) ≤ unitLength line := by
  conv_rhs => rw [← List.take_append_drop count line, unitLength_append]
  exact Nat.le_add_right _ _

/-- **A column within a line is reached by just as many characters as have its units.** -/
lemma columnChars_le_iff (hle : column ≤ unitLength line) (n : Nat) :
    columnChars column line ≤ n ↔ column ≤ unitLength (line.take n) := by
  induction line generalizing column n with
  | nil =>
    obtain rfl : column = 0 := Nat.le_zero.mp hle
    exact iff_of_true (Nat.zero_le _) (Nat.zero_le _)
  | cons c cs ih =>
    cases column with
    | zero => exact iff_of_true (Nat.zero_le _) (Nat.zero_le _)
    | succ column =>
      rw [unitLength] at hle
      have hrest : column + 1 - charUnits c ≤ unitLength cs := by omega
      cases n with
      | zero =>
        rw [columnChars, List.take_zero, unitLength]
        omega
      | succ n =>
        rw [columnChars, List.take_succ_cons, unitLength]
        have htail := ih hrest n
        omega

lemma columnChars_of_lt (hlt : unitLength line < column) :
    columnChars column line = line.length := by
  obtain ⟨more, rfl⟩ := Nat.exists_eq_add_of_lt hlt
  have h := columnChars_add line [] (more + 1)
  rwa [List.append_nil, columnChars, Nat.add_zero] at h

/-- **As many characters lie before a column as before the first boundary that does not lie before
it**, or before the end of the line. -/
lemma isLeast_columnChars (column : Nat) (line : List Char) :
    IsLeast {count | column ≤ unitLength (line.take count) ∨ count = line.length}
      (columnChars column line) := by
  by_cases hle : column ≤ unitLength line
  · refine ⟨Or.inl ((columnChars_le_iff hle _).mp (Nat.le_refl _)), ?_⟩
    rintro count (hcolumn | rfl)
    · exact (columnChars_le_iff hle count).mpr hcolumn
    · exact columnChars_le_length column line
  · rw [columnChars_of_lt (Nat.lt_of_not_le hle)]
    refine ⟨Or.inr rfl, ?_⟩
    rintro count (hcolumn | rfl)
    · exact absurd (Nat.le_trans hcolumn (unitLength_take_le count line)) hle
    · exact Nat.le_refl _

/-! ## Boundaries that a column may denote -/

variable (column line) in
/-- The boundaries of a line with at least as many units before them as the column says. -/
def boundariesFrom : Set Nat :=
  {offset | IsBoundary line offset ∧ column ≤ unitLength (takeBytes offset line)}

lemma takeBytes_columnBytes (column : Nat) (line : List Char) :
    takeBytes (columnBytes column line) line = line.take (columnChars column line) := by
  rw [columnBytes_eq, takeBytes_byteLength_take]

lemma isBoundary_columnBytes (column : Nat) (line : List Char) :
    IsBoundary line (columnBytes column line) := by
  have h := isBoundary_append (line.take (columnChars column line))
    (line.drop (columnChars column line))
  rwa [List.take_append_drop, ← columnBytes_eq] at h

/-- The end of a line is a boundary, so that a column within the line denotes one. -/
lemma boundariesFrom_nonempty_iff :
    (boundariesFrom column line).Nonempty ↔ column ≤ unitLength line := by
  constructor
  · rintro ⟨offset, hboundary, hle⟩
    obtain ⟨front, back, rfl, rfl⟩ := isBoundary_iff.mp hboundary
    rw [takeBytes_byteLength_append] at hle
    rw [unitLength_append]
    exact Nat.le_trans hle (Nat.le_add_right _ _)
  · intro hle
    have hend := isBoundary_append line []
    have hall := takeBytes_byteLength_append line []
    rw [List.append_nil] at hend hall
    exact ⟨byteLength line, hend, by rwa [hall]⟩

/-- **A column within a line is read as the first boundary that it may denote.** -/
lemma isLeast_columnBytes (hle : column ≤ unitLength line) :
    IsLeast (boundariesFrom column line) (columnBytes column line) := by
  refine ⟨⟨isBoundary_columnBytes column line, ?_⟩, ?_⟩
  · rw [takeBytes_columnBytes]
    exact (columnChars_le_iff hle _).mp (Nat.le_refl _)
  · rintro offset ⟨hboundary, hunits⟩
    obtain ⟨front, back, rfl, rfl⟩ := isBoundary_iff.mp hboundary
    rw [takeBytes_byteLength_append] at hunits
    have hchars : columnChars column (front ++ back) ≤ front.length := by
      rwa [columnChars_le_iff hle, List.take_left]
    have hbytes := byteLength_take_mono hchars (front ++ back)
    rwa [List.take_left, ← columnBytes_eq] at hbytes

/-- **The two readings of a column are exact and agree.**  For every line:

* a column is read as the first boundary with at least as many units before it, and as the end of
  the line when there is none;
* so the number of units before a boundary is read as this boundary, a later column never as an
  earlier offset, and every column as a boundary;
* as many characters lie before a column for an edit as stand before this boundary. -/
theorem column_conversions_exact (line : List Char) :
    (∀ column, (boundariesFrom column line).Nonempty →
      IsLeast (boundariesFrom column line) (columnBytes column line)) ∧
    (∀ column, ¬ (boundariesFrom column line).Nonempty →
      columnBytes column line = byteLength line) ∧
    (∀ offset, IsBoundary line offset →
      columnBytes (unitLength (takeBytes offset line)) line = offset) ∧
    (∀ column column', column ≤ column' →
      columnBytes column line ≤ columnBytes column' line) ∧
    (∀ column, IsBoundary line (columnBytes column line)) ∧
    ∀ column, columnChars column line = (takeBytes (columnBytes column line) line).length := by
  refine ⟨fun column hsome => isLeast_columnBytes (boundariesFrom_nonempty_iff.mp hsome),
    fun column hnone => ?_, fun offset hoffset => ?_,
    fun _ _ hle => columnBytes_mono hle line,
    fun column => isBoundary_columnBytes column line, fun column => ?_⟩
  · have hlt : unitLength line < column := by
      rwa [boundariesFrom_nonempty_iff, Nat.not_le] at hnone
    rw [columnBytes_eq, columnChars_of_lt hlt, List.take_length]
  · obtain ⟨front, back, rfl, rfl⟩ := isBoundary_iff.mp hoffset
    rw [takeBytes_byteLength_append, columnBytes_eq, take_columnChars_unitLength]
  · rw [takeBytes_columnBytes, List.length_take, Nat.min_eq_left (columnChars_le_length _ _)]

/-- A column inside a character of two units, and one past the end of the line. -/
example : columnBytes 2 ['a', '😀', 'b'] = 5 ∧ columnChars 2 ['a', '😀', 'b'] = 2 ∧
    columnBytes 9 ['a', '😀', 'b'] = 6 ∧ columnChars 9 ['a', '😀', 'b'] = 3 := by
  decide

end LanguageServer.Text
