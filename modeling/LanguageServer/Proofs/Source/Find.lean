import LanguageServer.Proofs.Text.Class
import LanguageServer.Source.Find

/-!
# What readers read

A reader takes a beginning of its input and leaves the rest unchanged.  For each of the small
readers this file says what the beginning looks like: a keyword (`strip?_eq_some_iff`), a gap
between words (`gap_of_skipBlanks1?`) or a name (`name_of_name?`).

Everything that `findAll` finds was read at some place of the text, with the text before that place
kept, and at a place where a find may start (`read_of_mem_findAll`).  What is known about a reader
is thereby known about its finds.  Conversely, the first find does not lie behind a place where the
reader reads something (`exists_mem_head?_findAll`), and at every such place there is a find unless
an earlier one reaches beyond it (`mem_findAll_or_covers`).  Finds do not overlap
(`length_le_of_mem_of_mem_findAll`).

A longer text is searched piece by piece.  A passage in which the reader reads nothing is passed
(`findAllFrom_passage`), and what it reads is one find, after which the search goes on
(`findAllFrom_item`).
-/

namespace LanguageServer.Source

open Text

variable {cs rest : List Char}

/-! ## Small readers -/

/-- Does the text separate two words, that is, does it consist of blanks and hold at least one? -/
def isGap (cs : List Char) : Bool :=
  cs ≠ [] && isBlankText cs

/-- Is the text a name whose characters after the first are of the class `part`? -/
def isName (part : Char → Bool) : List Char → Bool
  | [] => false
  | c :: cs => isNameStart c && cs.all part

lemma ne_nil_of_isGap {gap : List Char} (hgap : isGap gap = true) : gap ≠ [] := by
  rintro rfl
  cases hgap

lemma isBlank_of_mem_gap {gap : List Char} (hgap : isGap gap = true) {c : Char} (hc : c ∈ gap) :
    isBlank c = true :=
  List.all_eq_true.mp (Bool.and_eq_true_iff.mp hgap).2 c hc

lemma isWord_head_gap {gap : List Char} (hgap : isGap gap = true) :
    ∀ c ∈ (gap ++ rest).head?, isWord c = false := by
  intro c hc
  obtain ⟨blank, blanks, rfl⟩ := List.exists_cons_of_ne_nil (ne_nil_of_isGap hgap)
  obtain rfl : blank = c := by simpa using hc
  exact isWord_of_isBlank (isBlank_of_mem_gap hgap List.mem_cons_self)

lemma strip?_eq_some_iff {word : List Char} : strip? word cs = some rest ↔ cs = word ++ rest := by
  induction word generalizing cs with
  | nil => simp [strip?]
  | cons w word ih =>
    cases cs with
    | nil => simp [strip?]
    | cons c cs =>
      by_cases hw : w = c
      · simp [strip?, hw, ih]
      · have hc : c ≠ w := Ne.symm hw
        simp [strip?, hw, hc]

lemma blanks_append_skipBlanks (cs : List Char) : cs.takeWhile isBlank ++ skipBlanks cs = cs :=
  List.takeWhile_append_dropWhile

lemma isBlankText_takeWhile (cs : List Char) : isBlankText (cs.takeWhile isBlank) = true :=
  List.all_takeWhile

lemma gap_of_skipBlanks1? (h : skipBlanks1? cs = some rest) :
    ∃ gap, isGap gap = true ∧ cs = gap ++ rest := by
  cases cs with
  | nil => cases h
  | cons c cs =>
    rw [skipBlanks1?] at h
    split at h
    · rename_i hc
      cases h
      refine ⟨c :: cs.takeWhile isBlank, ?_, ?_⟩
      · simp [isGap, isBlankText, hc]
      · rw [List.cons_append, blanks_append_skipBlanks]
    · cases h

lemma blank_of_skipBlanks1? (h : skipBlanks1? cs = some rest) :
    ∃ blank more, cs = blank :: more ∧ isBlank blank = true := by
  cases cs with
  | nil => cases h
  | cons blank more =>
    rw [skipBlanks1?] at h
    split at h
    · exact ⟨blank, more, rfl, by assumption⟩
    · cases h

lemma skipBlanks_of_skipBlanks1? (h : skipBlanks1? cs = some rest) : rest = skipBlanks cs := by
  obtain ⟨blank, more, rfl, hblank⟩ := blank_of_skipBlanks1? h
  rw [skipBlanks1?, if_pos hblank, Option.some.injEq] at h
  rw [← h, skipBlanks, skipBlanks, List.dropWhile_cons_of_pos hblank]

lemma name_of_name? {part : Char → Bool} {name : List Char}
    (h : name? part cs = some (name, rest)) : isName part name = true ∧ cs = name ++ rest := by
  cases cs with
  | nil => cases h
  | cons c cs =>
    rw [name?] at h
    split at h
    · rename_i hc
      cases h
      refine ⟨?_, ?_⟩
      · rw [isName, hc, List.all_takeWhile]
        rfl
      · rw [List.cons_append, List.takeWhile_append_dropWhile]
    · cases h

lemma stop_of_name? {part : Char → Bool} {name : List Char}
    (h : name? part cs = some (name, rest)) : ∀ c ∈ rest.head?, part c = false := by
  cases cs with
  | nil => cases h
  | cons c cs =>
    rw [name?] at h
    split at h
    · cases h
      intro d hd
      have hstop := List.head?_dropWhile_not part cs
      rw [Option.mem_def.mp hd] at hstop
      simpa using hstop
    · cases h

lemma name?_append {part : Char → Bool} {name : List Char} (hname : isName part name = true)
    (hrest : ∀ c ∈ rest.head?, part c = false) : name? part (name ++ rest) = some (name, rest) := by
  cases name with
  | nil => cases hname
  | cons c name =>
    rw [isName, Bool.and_eq_true, List.all_eq_true] at hname
    have hstop : rest.takeWhile part = [] ∧ rest.dropWhile part = rest := by
      cases rest with
      | nil => exact ⟨rfl, rfl⟩
      | cons d rest =>
        have hd : ¬ part d = true := by simp [hrest d rfl]
        exact ⟨List.takeWhile_cons_of_neg hd, List.dropWhile_cons_of_neg hd⟩
    rw [List.cons_append, name?, if_pos hname.1, List.takeWhile_append_of_pos hname.2,
      List.dropWhile_append_of_pos hname.2, hstop.1, hstop.2, List.append_nil]

lemma notMem_of_isName {part : Char → Bool} {name : List Char} (hname : isName part name = true)
    {c : Char} (hstart : isNameStart c = false) (hpart : part c = false) : c ∉ name := by
  cases name with
  | nil => simp
  | cons d name =>
    rw [isName, Bool.and_eq_true, List.all_eq_true] at hname
    intro hmem
    rcases List.mem_cons.mp hmem with rfl | hmem
    · rw [hstart] at hname
      exact absurd hname.1 (by simp)
    · have hc := hname.2 c hmem
      rw [hpart] at hc
      exact absurd hc (by simp)

lemma part_of_mem {part : Char → Bool} (hstart : ∀ c, isNameStart c = true → part c = true)
    {name : List Char} (hname : isName part name = true) {c : Char} (hc : c ∈ name) :
    part c = true := by
  cases name with
  | nil => cases hc
  | cons d name =>
    rw [isName, Bool.and_eq_true, List.all_eq_true] at hname
    rcases List.mem_cons.mp hc with rfl | hc
    · exact hstart c hname.1
    · exact hname.2 c hc

lemma isNamePart_of_mem {name : List Char} (hname : isName isNamePart name = true) {c : Char}
    (hc : c ∈ name) : isNamePart c = true :=
  part_of_mem (fun _ => isNamePart_of_isNameStart) hname hc

lemma isWord_of_mem {name : List Char} (hname : isName isWord name = true) {c : Char}
    (hc : c ∈ name) : isWord c = true :=
  part_of_mem (fun _ h => isWord_of_isNamePart (isNamePart_of_isNameStart h)) hname hc

lemma ne_nil_of_isName {part : Char → Bool} {name : List Char} (hname : isName part name = true) :
    name ≠ [] := by
  rintro rfl
  cases hname

lemma trim_of_isName {name : List Char} (hname : isName isWord name = true) : trim name = name := by
  have hblank : ∀ c ∈ name, isBlank c = false := by
    intro c hc
    rw [Bool.eq_false_iff]
    intro hblank
    have hword := isWord_of_mem hname hc
    rw [isWord_of_isBlank hblank] at hword
    cases hword
  rw [trim_eq_self_iff]
  exact ⟨fun c hc => hblank c (List.mem_of_mem_head? hc),
    fun c hc => hblank c (List.mem_of_getLast? hc)⟩

/-- A name begins with no blank, so that the gap before it ends there. -/
lemma skipBlanks1?_gap {part : Char → Bool} {gap name : List Char} (hgap : isGap gap = true)
    (hname : isName part name = true) (rest : List Char) :
    skipBlanks1? (gap ++ (name ++ rest)) = some (name ++ rest) := by
  obtain ⟨blank, blanks, rfl⟩ := List.exists_cons_of_ne_nil (ne_nil_of_isGap hgap)
  have hblanks : ∀ c ∈ blanks, isBlank c = true := fun c hc =>
    isBlank_of_mem_gap hgap (List.mem_cons_of_mem blank hc)
  cases name with
  | nil => cases hname
  | cons c name =>
    rw [isName, Bool.and_eq_true] at hname
    have hc : isBlank c = false := by
      rw [Bool.eq_false_iff]
      intro hc
      have hpart := isNamePart_of_isNameStart hname.1
      rw [isNamePart_of_isBlank hc] at hpart
      cases hpart
    rw [List.cons_append, skipBlanks1?, if_pos (isBlank_of_mem_gap hgap List.mem_cons_self),
      skipBlanks, List.dropWhile_append_of_pos hblanks, List.cons_append,
      List.dropWhile_cons_of_neg (by simp [hc])]

lemma skipBlanks1?_name {part : Char → Bool} {name : List Char} (hname : isName part name = true)
    (rest : List Char) : skipBlanks1? (' ' :: (name ++ rest)) = some (name ++ rest) :=
  @skipBlanks1?_gap part [' '] name (by decide) hname rest

/-- Read backwards, a text ends with its longest run of a class. -/
lemma takeWhile_reverse_append {part : Char → Bool} {before run : List Char}
    (hrun : ∀ c ∈ run, part c = true) (hbefore : ∀ c ∈ before.getLast?, part c = false) :
    (before ++ run).reverse.takeWhile part = run.reverse := by
  have hstop : before.reverse.takeWhile part = [] := by
    cases hrev : before.reverse with
    | nil => rfl
    | cons d ds =>
      have hlast : before.getLast? = some d := by
        rw [List.getLast?_eq_head?_reverse, hrev, List.head?_cons]
      rw [List.takeWhile_cons_of_neg (by simp [hbefore d hlast])]
  have hall : ∀ c ∈ run.reverse, part c = true := fun c hc => hrun c (List.mem_reverse.mp hc)
  rw [List.reverse_append, List.takeWhile_append_of_pos hall, hstop, List.append_nil]

lemma dropWhile_reverse_append {part : Char → Bool} {before run : List Char}
    (hrun : ∀ c ∈ run, part c = true) (hbefore : ∀ c ∈ before.getLast?, part c = false) :
    (before ++ run).reverse.dropWhile part = before.reverse := by
  have hcut := List.takeWhile_append_dropWhile (p := part) (l := (before ++ run).reverse)
  rw [takeWhile_reverse_append hrun hbefore, List.reverse_append] at hcut
  rw [List.reverse_append]
  exact List.append_cancel_left hcut

lemma exists_run (part : Char → Bool) (cs : List Char) : ∃ before run, cs = before ++ run ∧
    (∀ c ∈ run, part c = true) ∧ ∀ c ∈ before.getLast?, part c = false := by
  refine ⟨(cs.reverse.dropWhile part).reverse, (cs.reverse.takeWhile part).reverse, ?_, ?_, ?_⟩
  · rw [← List.reverse_append, List.takeWhile_append_dropWhile, List.reverse_reverse]
  · intro c hc
    exact List.all_eq_true.mp List.all_takeWhile c (List.mem_reverse.mp hc)
  · intro c hc
    rw [List.getLast?_reverse] at hc
    have hstop := List.head?_dropWhile_not part cs.reverse
    rw [Option.mem_def.mp hc] at hstop
    simpa using hstop

lemma wordStart_of_isBlankText (hblank : isBlankText cs = true) :
    wordStart cs.getLast? = true := by
  cases hlast : cs.getLast? with
  | none => rfl
  | some c =>
    have hc : isBlank c = true := List.all_eq_true.mp hblank c (List.mem_of_getLast? hlast)
    rw [wordStart, isWord_of_isBlank hc]
    rfl

lemma wordStart_gap {gap : List Char} (front : List Char) (hgap : isGap gap = true) :
    wordStart (front ++ gap).getLast? = true := by
  have hlast := List.getLast?_eq_some_getLast (ne_nil_of_isGap hgap)
  rw [List.getLast?_append, hlast, Option.some_or, ← hlast]
  exact wordStart_of_isBlankText (Bool.and_eq_true_iff.mp hgap).2

lemma mem_getLast?_of_suffix {tail : List Char} (h : tail <:+ cs) {c : Char}
    (hc : c ∈ tail.getLast?) : c ∈ cs.getLast? := by
  obtain ⟨before, rfl⟩ := h
  rw [List.getLast?_append, Option.mem_def.mp hc]
  rfl

/-- A word without blanks that begins in a text with a blank at its end does not go on after it. -/
lemma isPrefix_of_append {word passage : List Char} (hword : ∀ c ∈ word, isBlank c = false)
    (hne : passage ≠ []) (hend : ∀ c ∈ passage.getLast?, isBlank c = true)
    (h : word <+: passage ++ rest) : word <+: passage := by
  rcases List.prefix_or_prefix_of_prefix h (List.prefix_append passage rest) with hin | hbeyond
  · exact hin
  · have hlast := List.getLast?_eq_some_getLast hne
    have hblank := hend _ hlast
    rw [hword _ (hbeyond.subset (List.getLast_mem hne))] at hblank
    cases hblank

/-! ## Finds -/

variable {α : Type} {starts : Option Char → Bool} {read : Reader α} {found : Found α}

/-- A find in the rest of a text was read there, after some more of the text was passed. -/
lemma read_of_mem_findAllFrom {seen : List Char} {skip : Nat}
    (h : found ∈ findAllFrom starts read seen skip cs) :
    ∃ passed input rest, cs = passed ++ input ∧ found.before = seen.reverse ++ passed ∧
      starts found.before.getLast? = true ∧ read input = some (found.value, rest) := by
  fun_induction findAllFrom starts read seen skip cs with
  | case1 => cases h
  | case2 seen skip c cs ih =>
    obtain ⟨passed, input, rest, rfl, hbefore, hstarts, hread⟩ := ih h
    exact ⟨c :: passed, input, rest, rfl, by simp [hbefore], hstarts, hread⟩
  | case3 seen c cs value rest hfind ih =>
    rcases List.mem_cons.mp h with rfl | h
    · by_cases hstarts : starts seen.head? = true
      · rw [if_pos hstarts] at hfind
        exact ⟨[], c :: cs, rest, rfl, by simp, by simpa using hstarts, hfind⟩
      · rw [if_neg hstarts] at hfind
        cases hfind
    · obtain ⟨passed, input, rest, rfl, hbefore, hstarts, hread⟩ := ih h
      exact ⟨c :: passed, input, rest, rfl, by simp [hbefore], hstarts, hread⟩
  | case4 seen c cs hfind ih =>
    obtain ⟨passed, input, rest, rfl, hbefore, hstarts, hread⟩ := ih h
    exact ⟨c :: passed, input, rest, rfl, by simp [hbefore], hstarts, hread⟩

/-- Every find was read at its place in the text, and a find may start there. -/
lemma read_of_mem_findAll {text : List Char} (h : found ∈ findAll starts read text) :
    ∃ input rest, text = found.before ++ input ∧ starts found.before.getLast? = true ∧
      read input = some (found.value, rest) := by
  obtain ⟨passed, input, rest, rfl, hbefore, hstarts, hread⟩ := read_of_mem_findAllFrom h
  exact ⟨input, rest, by simp [hbefore], hstarts, hread⟩

lemma exists_mem_head?_findAllFrom {seen front input : List Char} {result : α × List Char}
    (hne : input ≠ []) (hstarts : starts (seen.reverse ++ front).getLast? = true)
    (hread : read input = some result) :
    ∃ found ∈ (findAllFrom starts read seen 0 (front ++ input)).head?,
      found.before.length ≤ seen.length + front.length := by
  induction front generalizing seen with
  | nil =>
    obtain ⟨c, cs, rfl⟩ := List.exists_cons_of_ne_nil hne
    rw [List.append_nil, List.getLast?_reverse] at hstarts
    rw [List.nil_append, findAllFrom, if_pos hstarts, hread]
    exact ⟨_, rfl, by simp⟩
  | cons c front ih =>
    rw [List.cons_append, findAllFrom]
    split
    · exact ⟨_, rfl, by simp⟩
    · obtain ⟨found, hfound, hle⟩ := @ih (c :: seen) (by simpa using hstarts)
      refine ⟨found, hfound, ?_⟩
      rw [List.length_cons] at hle ⊢
      omega

/-- Where something can be read, there or before is the first find. -/
lemma exists_mem_head?_findAll {front input : List Char} {result : α × List Char}
    (hne : input ≠ []) (hstarts : starts front.getLast? = true)
    (hread : read input = some result) :
    ∃ found ∈ (findAll starts read (front ++ input)).head?, found.before.length ≤ front.length := by
  have hfirst := @exists_mem_head?_findAllFrom _ starts read [] front input result hne hstarts hread
  rwa [List.length_nil, Nat.zero_add] at hfirst

/-- What belongs to a find already made is passed over. -/
lemma length_le_of_mem_findAllFrom {seen : List Char} {skip : Nat}
    (h : found ∈ findAllFrom starts read seen skip cs) :
    seen.length + skip ≤ found.before.length := by
  fun_induction findAllFrom starts read seen skip cs with
  | case1 => cases h
  | case2 seen skip c cs ih =>
    have hle := ih h
    rw [List.length_cons] at hle
    omega
  | case3 seen c cs value rest hfind ih =>
    rcases List.mem_cons.mp h with rfl | h
    · simp
    · have hle := ih h
      rw [List.length_cons] at hle
      omega
  | case4 seen c cs hfind ih =>
    have hle := ih h
    rw [List.length_cons] at hle
    omega

/-- One of the finds is made in `front`, where `seen` stands before it, and what was read for it
reaches beyond the end of `front` into the input. -/
def Covers (read : Reader α) (finds : List (Found α)) (seen front input : List Char) : Prop :=
  ∃ earlier passed other left, ⟨seen ++ earlier, other⟩ ∈ finds ∧ front = earlier ++ passed ∧
    passed ≠ [] ∧ read (passed ++ input) = some (other, left) ∧ left.length < input.length

lemma Covers.cons {finds more : List (Found α)} {seen front input : List Char} {c : Char}
    (h : Covers read finds (seen ++ [c]) front input) (hsub : finds ⊆ more) :
    Covers read more seen (c :: front) input := by
  obtain ⟨earlier, passed, other, left, hmem, rfl, hreach⟩ := h
  rw [List.append_assoc] at hmem
  exact ⟨c :: earlier, passed, other, left, hsub hmem, rfl, hreach⟩

lemma mem_findAllFrom_or_covers {seen front input : List Char} {skip : Nat} {value : α}
    (hne : input ≠ []) (hstarts : starts (seen.reverse ++ front).getLast? = true)
    (hread : read input = some (value, rest)) :
    ⟨seen.reverse ++ front, value⟩ ∈ findAllFrom starts read seen skip (front ++ input) ∨
      front.length < skip ∨
      Covers read (findAllFrom starts read seen skip (front ++ input)) seen.reverse front
        input := by
  induction front generalizing seen skip with
  | nil =>
    obtain ⟨c, cs, rfl⟩ := List.exists_cons_of_ne_nil hne
    cases skip with
    | zero =>
      left
      rw [List.append_nil, List.getLast?_reverse] at hstarts
      rw [List.nil_append, findAllFrom, if_pos hstarts, hread, List.append_nil]
      exact List.mem_cons_self
    | succ skip => exact .inr (.inl (Nat.zero_lt_succ skip))
  | cons c front ih =>
    have hnext {skip : Nat} := @ih (c :: seen) skip (by simpa using hstarts)
    simp only [List.reverse_cons, List.append_assoc, List.singleton_append] at hnext
    rw [List.cons_append]
    cases skip with
    | succ skip =>
      rw [findAllFrom]
      rcases @hnext skip with hmem | hskip | hcovers
      · exact .inl hmem
      · exact .inr (.inl (Nat.succ_lt_succ hskip))
      · exact .inr (.inr (hcovers.cons (List.Subset.refl _)))
    | zero =>
      rw [findAllFrom]
      split
      · rename_i other left hfind
        have hother := (Option.ite_none_right_eq_some.mp hfind).2
        rcases hnext with hmem | hskip | hcovers
        · exact .inl (List.mem_cons_of_mem _ hmem)
        · -- The character begins a find that the place belongs to.
          rw [List.length_append] at hskip
          have hleft : left.length < input.length := by omega
          exact .inr (.inr ⟨[], c :: front, other, left, by simp, rfl, by simp, hother, hleft⟩)
        · exact .inr (.inr (hcovers.cons (List.subset_cons_self _ _)))
      · rcases @hnext 0 with hmem | hskip | hcovers
        · exact .inl hmem
        · exact absurd hskip (Nat.not_lt_zero _)
        · exact .inr (.inr (hcovers.cons (List.Subset.refl _)))

lemma length_le_of_mem_of_mem_findAllFrom {seen passed input left : List Char} {skip : Nat}
    {value : α} (hread : read input = some (value, left))
    (h : ⟨seen.reverse ++ passed, value⟩ ∈ findAllFrom starts read seen skip (passed ++ input))
    (hfound : found ∈ findAllFrom starts read seen skip (passed ++ input))
    (hlt : seen.length + passed.length < found.before.length) :
    seen.length + passed.length + input.length ≤ found.before.length + left.length := by
  induction passed generalizing seen skip with
  | nil =>
    have hskip := length_le_of_mem_findAllFrom h
    rw [List.append_nil, List.length_reverse] at hskip
    obtain rfl : skip = 0 := by omega
    cases input with
    | nil => cases h
    | cons c cs =>
      rw [List.nil_append, findAllFrom] at h hfound
      split at h
      · rename_i other rest hfind
        simp only [hfind] at hfound
        have hother := (Option.ite_none_right_eq_some.mp hfind).2
        rw [hread] at hother
        cases hother
        rcases List.mem_cons.mp hfound with rfl | hfound
        · simp at hlt
        · have hle := length_le_of_mem_findAllFrom hfound
          simp only [List.length_cons, List.length_nil] at hle ⊢
          omega
      · have hle := length_le_of_mem_findAllFrom h
        simp only [List.append_nil, List.length_cons, List.length_reverse] at hle
        omega
  | cons c passed ih =>
    have hseen : (c :: seen).reverse ++ passed = seen.reverse ++ c :: passed := by
      simp
    have hlength : (c :: seen).length + passed.length = seen.length + (c :: passed).length := by
      simp only [List.length_cons]
      omega
    have hnext {skip : Nat} := @ih (c :: seen) skip
    rw [hseen, hlength] at hnext
    cases skip with
    | succ skip =>
      rw [List.cons_append, findAllFrom] at h hfound
      exact hnext h hfound hlt
    | zero =>
      rw [List.cons_append, findAllFrom] at h hfound
      split at h
      · rename_i other rest hfind
        simp only [hfind] at hfound
        rcases List.mem_cons.mp h with heq | h
        · have hbefore := congrArg Found.before heq
          simp at hbefore
        · rcases List.mem_cons.mp hfound with rfl | hfound
          · simp only [List.length_cons, List.length_reverse] at hlt
            omega
          · exact hnext h hfound hlt
      · rename_i hfind
        simp only [hfind] at hfound
        exact hnext h hfound hlt


/-- Where something can be read there is a find, or an earlier find reaches beyond the place. -/
lemma mem_findAll_or_covers {front input : List Char} {value : α} (hne : input ≠ [])
    (hstarts : starts front.getLast? = true) (hread : read input = some (value, rest)) :
    ⟨front, value⟩ ∈ findAll starts read (front ++ input) ∨
      Covers read (findAll starts read (front ++ input)) [] front input := by
  rcases @mem_findAllFrom_or_covers rest α starts read [] front input 0 value hne hstarts hread
    with hmem | hskip | hcovers
  · exact .inl hmem
  · exact absurd hskip (Nat.not_lt_zero _)
  · exact .inr hcovers

/-- Finds do not overlap: what is found behind another find lies behind all that was read for it. -/
lemma length_le_of_mem_of_mem_findAll {front input left : List Char} {value : α}
    (hread : read input = some (value, left))
    (h : ⟨front, value⟩ ∈ findAll starts read (front ++ input))
    (hfound : found ∈ findAll starts read (front ++ input))
    (hlt : front.length < found.before.length) :
    front.length + input.length ≤ found.before.length + left.length := by
  have hle := @length_le_of_mem_of_mem_findAllFrom α starts read found [] front input left 0 value
    hread h hfound
  simp only [List.length_nil, Nat.zero_add] at hle
  exact hle hlt

/-! ## Piece by piece -/

variable {seen : List Char}

lemma findAllFrom_length (seen item rest : List Char) :
    findAllFrom starts read seen item.length (item ++ rest) =
      findAllFrom starts read (item.reverse ++ seen) 0 rest := by
  induction item generalizing seen with
  | nil => rfl
  | cons c item ih =>
    rw [List.length_cons, List.cons_append, findAllFrom, ih, List.reverse_cons, List.append_assoc,
      List.singleton_append]

lemma findAllFrom_item {item : List Char} {value : α} (hne : item ≠ [])
    (hstarts : starts seen.head? = true) (hread : read (item ++ rest) = some (value, rest)) :
    findAllFrom starts read seen 0 (item ++ rest) =
      ⟨seen.reverse, value⟩ :: findAllFrom starts read (item.reverse ++ seen) 0 rest := by
  obtain ⟨c, item, rfl⟩ := List.exists_cons_of_ne_nil hne
  rw [List.cons_append] at hread
  have hskip : (item ++ rest).length - rest.length = item.length := by
    rw [List.length_append, Nat.add_sub_cancel]
  rw [List.cons_append, findAllFrom, if_pos hstarts, hread]
  simp only [hskip, findAllFrom_length, List.reverse_cons, List.append_assoc,
    List.singleton_append]

/-- A passage is passed if the reader reads nothing at any of its places. -/
lemma findAllFrom_passage {passage : List Char}
    (h : ∀ tail, tail <:+ passage → tail ≠ [] → read (tail ++ rest) = none) :
    findAllFrom starts read seen 0 (passage ++ rest) =
      findAllFrom starts read (passage.reverse ++ seen) 0 rest := by
  induction passage generalizing seen with
  | nil => rfl
  | cons c passage ih =>
    have hnone : read (c :: (passage ++ rest)) = none :=
      h (c :: passage) List.suffix_rfl (List.cons_ne_nil c passage)
    have htail := fun tail (hsuffix : tail <:+ passage) =>
      h tail (hsuffix.trans (List.suffix_cons c passage))
    rw [List.cons_append, findAllFrom, hnone, ite_self, List.reverse_cons, List.append_assoc,
      List.singleton_append]
    exact ih htail

/-- Where the reader reads only what holds a word, nothing is found in a text without the word. -/
lemma findAllFrom_eq_nil_of_word {word : List Char} {skip : Nat}
    (hread : ∀ input result, read input = some result → word <:+: input) (hword : ¬ word <:+: cs) :
    findAllFrom starts read seen skip cs = [] := by
  refine List.eq_nil_iff_forall_not_mem.mpr fun found hfound => hword ?_
  obtain ⟨passed, input, rest, rfl, -, -, hinput⟩ := read_of_mem_findAllFrom hfound
  exact (hread input _ hinput).trans (List.suffix_append passed input).isInfix

/-- Where the reader reads only what begins with a word, nothing is found in a text without the
word. -/
lemma findAll_eq_nil_of_strip? {word : List Char}
    (hread : ∀ input, strip? word input = none → read input = none) (hword : ¬ word <:+: cs) :
    findAll starts read cs = [] := by
  refine findAllFrom_eq_nil_of_word (fun input result hinput => ?_) hword
  cases hstrip : strip? word input with
  | none => cases (hread input hstrip).symm.trans hinput
  | some rest => exact ⟨[], rest, (strip?_eq_some_iff.mp hstrip).symm⟩

end LanguageServer.Source
