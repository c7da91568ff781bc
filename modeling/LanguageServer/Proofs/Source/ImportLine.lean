import Mathlib.Data.List.TakeWhile
import LanguageServer.Proofs.Source.Import

/-!
# Lines with imports and lines without

A line that is written as an import, a path of names and perhaps an alias, is read as this import
and as nothing else, with blanks around it or without (`Import.onLine_spelled`).

An import begins with the word `needs` and a blank after it.  Whether these occur in a text is
decided in its parts, as long as what stands between the parts is neither a blank nor a letter of
the word (`Import.Begins.of_append`).  A line whose parts are names and texts without the word
therefore holds no import.
-/

namespace LanguageServer

open Text Source

/-! ## Words in a text -/

namespace Source

/-- Does the text hold the word, with no word character right before or after it? -/
def holdsWord (word text : List Char) : Bool :=
  (List.range (text.length + 1)).any fun place =>
    wordStart (text.take place).getLast? && word.isPrefixOf (text.drop place) &&
      (text.drop (place + word.length)).head?.all (!isWord ·)

lemma holdsWord_append {before word after : List Char} (hbefore : wordStart before.getLast? = true)
    (hafter : after.head?.all (!isWord ·) = true) :
    holdsWord word (before ++ word ++ after) = true := by
  rw [holdsWord, List.any_eq_true]
  refine ⟨before.length, List.mem_range.mpr (by simp only [List.length_append]; omega), ?_⟩
  have htake : (before ++ word ++ after).take before.length = before := by simp
  have hdrop : (before ++ word ++ after).drop before.length = word ++ after := by simp
  have hrest : (before ++ word ++ after).drop (before.length + word.length) = after := by
    rw [← List.length_append, List.drop_left]
  rw [htake, hdrop, hrest, hbefore, hafter]
  simp

end Source

namespace Import

/-! ## Reading a written import -/

lemma pathRest_append {run : List Char} (hrun : ∀ c ∈ run, isNamePart c = true)
    (rest : List Char) :
    pathRest (run ++ rest) = (run ++ (pathRest rest).1, (pathRest rest).2) := by
  induction run with
  | nil => rfl
  | cons c run ih =>
    have hc := hrun c List.mem_cons_self
    have hdot : c ≠ '.' := by
      rintro rfl
      exact absurd hc (by decide)
    have htail := ih fun d hd => hrun d (List.mem_cons_of_mem c hd)
    rw [List.cons_append, pathRest, if_pos hc, htail]
    · rfl
    · exact fun _ _ h => absurd h hdot

lemma joinWith_cons_cons (c : Char) (first : List Char) (names : List (List Char)) :
    joinWith ['.'] ((c :: first) :: names) = c :: joinWith ['.'] (first :: names) := by
  cases names <;> simp [joinWith]

lemma pathRest_stop {rest : List Char} (hrest : ∀ c ∈ rest.head?, isBlank c = true) :
    pathRest rest = ([], rest) := by
  cases rest with
  | nil => rfl
  | cons c rest =>
    have hblank : isBlank c = true := hrest c rfl
    rw [pathRest, if_neg (by simp [isNamePart_of_isBlank hblank])]
    rintro _ _ rfl
    exact absurd hblank (by decide)

/-- A path of names, the first of which is begun already, is read up to the blank after it. -/
lemma pathRest_written {first : List Char} {names : List (List Char)}
    (hfirst : ∀ c ∈ first, isNamePart c = true)
    (hnames : ∀ name ∈ names, isName isNamePart name = true) {rest : List Char}
    (hrest : ∀ c ∈ rest.head?, isBlank c = true) :
    pathRest (joinWith ['.'] (first :: names) ++ rest) =
      (joinWith ['.'] (first :: names), rest) := by
  induction names generalizing first with
  | nil => rw [joinWith, pathRest_append hfirst, pathRest_stop hrest, List.append_nil]
  | cons name names ih =>
    obtain ⟨c, cs, rfl⟩ : ∃ c cs, name = c :: cs := by
      cases name with
      | nil => cases hnames [] List.mem_cons_self
      | cons c cs => exact ⟨c, cs, rfl⟩
    have hname := hnames (c :: cs) List.mem_cons_self
    rw [isName, Bool.and_eq_true, List.all_eq_true] at hname
    have htail := ih hname.2 fun other hother => hnames other (List.mem_cons_of_mem _ hother)
    rw [joinWith, joinWith_cons_cons, List.append_assoc, List.append_assoc, pathRest_append hfirst]
    simp only [List.cons_append, List.nil_append, pathRest, hname.1, htail, if_true,
      List.append_assoc]

/-- The word that an import begins with. -/
def keyword : List Char := ['n', 'e', 'e', 'd', 's']

/-- What stands before an alias. -/
def beforeAlternate : List Char := [' ', 'a', 's', ' ']

/-- An import as it is written: the path, and the alias. -/
def written (names : List (List Char)) (alternate : List Char) : List Char :=
  keyword ++ ' ' :: (joinWith ['.'] names ++ (beforeAlternate ++ alternate))

lemma alternate?_written {name : List Char} (hname : isName isNamePart name = true)
    {rest : List Char} (hrest : ∀ c ∈ rest.head?, isBlank c = true) :
    alternate? (beforeAlternate ++ (name ++ rest)) = some (name, rest) := by
  have hgap : skipBlanks1? (beforeAlternate ++ (name ++ rest)) =
      some (['a', 's'] ++ ' ' :: (name ++ rest)) :=
    skipBlanks1?_name (show isName isNamePart ['a', 's'] = true by decide) (' ' :: (name ++ rest))
  have has :
      strip? ['a', 's'] (['a', 's'] ++ ' ' :: (name ++ rest)) = some (' ' :: (name ++ rest)) :=
    strip?_eq_some_iff.mpr rfl
  have hstop : ∀ c ∈ rest.head?, isNamePart c = false := fun c hc =>
    isNamePart_of_isBlank (hrest c hc)
  simp only [alternate?, Option.bind_eq_bind, hgap, Option.bind_some, has,
    skipBlanks1?_name hname rest, name?_append hname hstop]

lemma alternate?_blanks {blanks : List Char} (hblanks : isBlankText blanks = true) :
    alternate? blanks = none := by
  cases blanks with
  | nil => rfl
  | cons c blanks =>
    rw [isBlankText, List.all_cons, Bool.and_eq_true] at hblanks
    have hgap : skipBlanks1? (c :: blanks) = some [] := by
      rw [skipBlanks1?, if_pos hblanks.1, skipBlanks,
        List.dropWhile_eq_nil_iff.mpr (List.all_eq_true.mp hblanks.2)]
    rw [alternate?, hgap]
    rfl

lemma path?_written {first : List Char} {names : List (List Char)}
    (hfirst : isName isNamePart first = true)
    (hnames : ∀ name ∈ names, isName isNamePart name = true) {rest : List Char}
    (hrest : ∀ c ∈ rest.head?, isBlank c = true) :
    path? (joinWith ['.'] (first :: names) ++ rest) =
      some (joinWith ['.'] (first :: names), rest) := by
  cases first with
  | nil => cases hfirst
  | cons c first =>
    rw [isName, Bool.and_eq_true, List.all_eq_true] at hfirst
    rw [joinWith_cons_cons, List.cons_append, path?, if_pos hfirst.1,
      pathRest_written hfirst.2 hnames hrest]

lemma skipBlanks1?_path {first : List Char} (hfirst : isName isNamePart first = true)
    (names : List (List Char)) (rest : List Char) :
    skipBlanks1? (' ' :: (joinWith ['.'] (first :: names) ++ rest)) =
      some (joinWith ['.'] (first :: names) ++ rest) := by
  cases names with
  | nil => exact skipBlanks1?_name hfirst rest
  | cons name names =>
    rw [joinWith, List.append_assoc, List.append_assoc]
    exact skipBlanks1?_name hfirst _

/-- An import as it is written: the path, and the alias if there is one. -/
def spelled (names : List (List Char)) : Option (List Char) → List Char
  | none => keyword ++ ' ' :: joinWith ['.'] names
  | some alternate => written names alternate

/-- **A written import is read back**, with the blanks after it left. -/
lemma read?_spelled {first : List Char} {names : List (List Char)}
    (hfirst : isName isNamePart first = true)
    (hnames : ∀ name ∈ names, isName isNamePart name = true) {alternate : Option (List Char)}
    (halternate : ∀ name ∈ alternate, isName isNamePart name = true) {blanks : List Char}
    (hblanks : isBlankText blanks = true) :
    read? (spelled (first :: names) alternate ++ blanks) =
      some ((joinWith ['.'] (first :: names), alternate), blanks) := by
  have hhead : ∀ c ∈ blanks.head?, isBlank c = true := fun c hc =>
    List.all_eq_true.mp hblanks c (List.mem_of_mem_head? hc)
  have hkeyword : ∀ rest, strip? ['n', 'e', 'e', 'd', 's'] (keyword ++ rest) = some rest :=
    fun rest => strip?_eq_some_iff.mpr rfl
  cases alternate with
  | none =>
    have hpath := path?_written hfirst hnames hhead
    simp only [spelled, List.append_assoc, List.cons_append, read?, Option.bind_eq_bind, hkeyword,
      Option.bind_some, skipBlanks1?_path hfirst, hpath, alternate?_blanks hblanks]
  | some name =>
    have hpath := path?_written hfirst hnames
      (show ∀ c ∈ (beforeAlternate ++ (name ++ blanks)).head?, isBlank c = true by
        rintro c ⟨⟩
        decide)
    have hname := alternate?_written (halternate name rfl) hhead
    simp only [spelled, written, List.append_assoc, List.cons_append, read?, Option.bind_eq_bind,
      hkeyword, Option.bind_some, skipBlanks1?_path hfirst, hpath, hname]

lemma findAllFrom_blanks {blanks : List Char} (hblanks : isBlankText blanks = true)
    (seen rest : List Char) :
    findAllFrom wordStart read? seen 0 (blanks ++ rest) =
      findAllFrom wordStart read? (blanks.reverse ++ seen) 0 rest := by
  refine findAllFrom_passage fun tail htail hne => ?_
  obtain ⟨c, tail, rfl⟩ := List.exists_cons_of_ne_nil hne
  have hc : isBlank c = true :=
    List.all_eq_true.mp hblanks c (htail.subset List.mem_cons_self)
  have hn : 'n' ≠ c := by
    rintro rfl
    exact absurd hc (by decide)
  rw [List.cons_append, read?, strip?, if_neg hn]
  rfl

/-- An import between blanks is the only one on its line. -/
lemma onLine_spelled {first : List Char} {names : List (List Char)}
    (hfirst : isName isNamePart first = true)
    (hnames : ∀ name ∈ names, isName isNamePart name = true) {alternate : Option (List Char)}
    (halternate : ∀ name ∈ alternate, isName isNamePart name = true) {indent blanks : List Char}
    (hindent : isBlankText indent = true) (hblanks : isBlankText blanks = true) (number : Nat) :
    onLine number (indent ++ (spelled (first :: names) alternate ++ blanks)) =
      [⟨String.ofList (joinWith ['.'] (first :: names)), alternate.map String.ofList, number⟩] := by
  have hread := read?_spelled hfirst hnames halternate hblanks
  have hne : spelled (first :: names) alternate ≠ [] := by
    cases alternate <;> simp [spelled, written, keyword]
  have hstart : wordStart (indent.reverse ++ []).head? = true := by
    rw [List.append_nil, List.head?_reverse]
    exact wordStart_of_isBlankText hindent
  have hend : ∀ seen, findAllFrom wordStart read? seen 0 blanks = [] := by
    intro seen
    have hpass := findAllFrom_blanks hblanks seen []
    rw [List.append_nil] at hpass
    rw [hpass, findAllFrom]
  rw [onLine, findAll, findAllFrom_blanks hindent, findAllFrom_item hne hstart hread, hend]
  rfl

lemma onLine_written {first alternate : List Char} {names : List (List Char)}
    (hfirst : isName isNamePart first = true)
    (hnames : ∀ name ∈ names, isName isNamePart name = true)
    (halternate : isName isNamePart alternate = true) (number : Nat) :
    onLine number (written (first :: names) alternate) =
      [⟨String.ofList (joinWith ['.'] (first :: names)), some (String.ofList alternate),
        number⟩] := by
  have hoption : ∀ name ∈ some alternate, isName isNamePart name = true := by
    simpa using halternate
  have hblank : isBlankText [] = true := rfl
  have hline := onLine_spelled hfirst hnames hoption hblank hblank number
  rwa [List.append_nil, List.nil_append] at hline

/-! ## Lines without imports -/

/-- Somewhere in the text a word starts that an import could begin with: the keyword, and a blank
after it. -/
def Begins (text : List Char) : Prop :=
  ∃ before blank after, text = before ++ (keyword ++ [blank]) ++ after ∧
    wordStart before.getLast? = true ∧ isBlank blank = true

lemma begins_of_onLine_ne_nil {number : Nat} {line : List Char} (h : onLine number line ≠ []) :
    Begins line := by
  obtain ⟨_, _, himports⟩ := List.exists_cons_of_ne_nil h
  obtain ⟨found, hfound, -⟩ := List.mem_map.mp
    (show _ ∈ onLine number line by rw [himports]; exact List.mem_cons_self)
  obtain ⟨input, rest, hline, hstart, hread⟩ := read_of_mem_findAll hfound
  simp only [read?, Option.bind_eq_bind, Option.bind_eq_some_iff] at hread
  obtain ⟨afterKeyword, hkeyword, afterGap, hgap, -⟩ := hread
  obtain ⟨blank, after, rfl, hblank⟩ := blank_of_skipBlanks1? hgap
  refine ⟨found.before, blank, after, ?_, hstart, hblank⟩
  rw [hline, strip?_eq_some_iff.mp hkeyword]
  simp [keyword]

namespace Begins

variable {lead rest text : List Char} {separator : Char}

lemma of_append (h : Begins (lead ++ separator :: rest)) (hkeyword : separator ∉ keyword)
    (hblank : isBlank separator = false) : Begins lead ∨ Begins rest := by
  obtain ⟨before, blank, after, htext, hstart, hisBlank⟩ := h
  have hseparator : separator ∉ keyword ++ [blank] := by
    rw [List.mem_append, not_or, List.mem_singleton]
    refine ⟨hkeyword, ?_⟩
    rintro rfl
    rw [hblank] at hisBlank
    cases hisBlank
  rcases run_before_or_after htext.symm hseparator with ⟨more, hlead⟩ | ⟨more, hbefore, hrest⟩
  · exact Or.inl ⟨before, blank, more, hlead, hstart, hisBlank⟩
  · refine Or.inr ⟨more, blank, after, hrest, ?_, hisBlank⟩
    cases hmore : more.getLast? with
    | none => rfl
    | some c =>
      rwa [hbefore, List.getLast?_append, List.getLast?_cons, hmore] at hstart

/-- Of texts with a separator between each two, one holds what could be an import. -/
lemma of_joinWith {parts : List (List Char)} (h : Begins (joinWith [separator] parts))
    (hkeyword : separator ∉ keyword) (hblank : isBlank separator = false) :
    ∃ part ∈ parts, Begins part := by
  induction parts with
  | nil =>
    obtain ⟨before, blank, after, htext, -⟩ := h
    simp [joinWith, keyword] at htext
  | cons part parts ih =>
    cases parts with
    | nil => exact ⟨part, List.mem_cons_self, h⟩
    | cons next parts =>
      rw [joinWith, List.append_assoc, List.singleton_append] at h
      rcases h.of_append hkeyword hblank with hpart | hrest
      · exact ⟨part, List.mem_cons_self, hpart⟩
      · obtain ⟨other, hother, hbegins⟩ := ih hrest
        exact ⟨other, List.mem_cons_of_mem part hother, hbegins⟩

lemma holdsWord (h : Begins text) : Source.holdsWord keyword text = true := by
  obtain ⟨before, blank, after, rfl, hstart, hblank⟩ := h
  rw [← List.append_assoc, List.append_assoc _ [blank]]
  exact holdsWord_append hstart (by simp [isWord_of_isBlank hblank])

lemma not_isName (h : Begins text) : isName isNamePart text = false := by
  obtain ⟨before, blank, after, rfl, -, hblank⟩ := h
  rw [Bool.eq_false_iff]
  intro hname
  have hpart : isNamePart blank = true := isNamePart_of_mem hname (by simp)
  rw [isNamePart_of_isBlank hblank] at hpart
  cases hpart

end Begins

end Import

end LanguageServer
