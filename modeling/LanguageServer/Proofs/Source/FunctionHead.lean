import Mathlib.Data.List.TakeWhile
import LanguageServer.Proofs.Source.Scrub
import LanguageServer.Proofs.Source.Symbol
import LanguageServer.Source.Declaration

/-!
# Heads of functions as they are written

The head of a function is written as its visibility, its name and a list of parameters, each a name
and perhaps a type (`Symbol.WrittenHead`), and the line it stands on opens a block.

The head is read back wherever it stands (`WrittenHead.head?_text`), and its parameters are what the
list is split into (`WrittenHead.split_list`, `WrittenParameter.bareName_text`).  The line declares
the function of this name and no other, though parameters and types may be named like keywords
(`WrittenHead.declares_line`): in the rest of the line a blank follows a colon, a comma or a
parenthesis only, never a keyword.
-/

namespace LanguageServer.Symbol

open Text Source

/-! ## Words and marks -/

/-- Is `c` a word character or one of the marks? -/
def isWordOr (marks : List Char) (c : Char) : Bool :=
  isWord c || marks.contains c

lemma all_isWordOr_of_isName {name : List Char} (hname : isName isWord name = true)
    (marks : List Char) : name.all (isWordOr marks) = true := by
  rw [List.all_eq_true]
  intro c hc
  rw [isWordOr, isWord_of_mem hname hc, Bool.true_or]

lemma all_isWordOr_append {marks cs : List Char} (h : cs.all (isWordOr marks) = true)
    (more : List Char) : cs.all (isWordOr (marks ++ more)) = true := by
  rw [List.all_eq_true] at h ⊢
  intro c hc
  have hin := h c hc
  rw [isWordOr, Bool.or_eq_true, List.contains_iff_mem] at hin ⊢
  exact hin.imp_right (List.mem_append_left more)

lemma notMem_of_all_isWordOr {marks cs : List Char} (h : cs.all (isWordOr marks) = true) {c : Char}
    (hc : isWordOr marks c = false) : c ∉ cs := by
  intro hmem
  have hin := List.all_eq_true.mp h c hmem
  rw [hc] at hin
  cases hin

/-! ## Parameters -/

/-- A parameter as it is written: its name and perhaps its type. -/
structure WrittenParameter where
  name : List Char
  type : Option (List Char)
  isName_name : isName isWord name = true
  isName_type : ∀ t ∈ type, isName isWord t = true

namespace WrittenParameter

variable (p : WrittenParameter)

/-- The parameter as it stands in the list. -/
def text : List Char :=
  match p.type with
  | none => p.name
  | some t => p.name ++ ([':', ' '] ++ t)

lemma all_text : p.text.all (isWordOr [':', ' ']) = true := by
  have hname := all_isWordOr_of_isName p.isName_name [':', ' ']
  rw [text]
  split
  · exact hname
  · rename_i t htype
    rw [List.all_append, List.all_append, hname, all_isWordOr_of_isName (p.isName_type t htype)]
    decide

lemma text_ne_nil : p.text ≠ [] := by
  have hname := ne_nil_of_isName p.isName_name
  rw [text]
  split
  · exact hname
  · exact List.append_ne_nil_of_left_ne_nil hname _

lemma trim_text : trim p.text = p.text := by
  have hname := trim_of_isName p.isName_name
  rw [text]
  split
  · exact hname
  · rename_i t htype
    have htypeName := p.isName_type t htype
    have hlast : (p.name ++ ([':', ' '] ++ t)).getLast? = t.getLast? := by
      have hne := ne_nil_of_isName htypeName
      rw [← List.append_assoc, List.getLast?_append,
        Option.or_of_isSome (List.getLast?_isSome.mpr hne)]
    obtain ⟨c, cs, hcons⟩ := List.exists_cons_of_ne_nil (ne_nil_of_isName p.isName_name)
    have hhead : (p.name ++ ([':', ' '] ++ t)).head? = p.name.head? := by
      rw [hcons]
      rfl
    rw [trim_eq_self_iff, hlast, hhead]
    exact ⟨((trim_eq_self_iff _).mp hname).1,
      ((trim_eq_self_iff _).mp (trim_of_isName htypeName)).2⟩

lemma bareName_text : Parameter.bareName (String.ofList p.text) = String.ofList p.name := by
  have hcolon : ∀ c ∈ p.name, (c != ':') = true := by
    intro c hc
    have hne : ':' ∉ p.name := notMem_of_isName p.isName_name (by decide) (by decide)
    rw [bne_iff_ne]
    rintro rfl
    exact hne hc
  have hbefore : p.text.takeWhile (· != ':') = p.name := by
    rw [text]
    split
    · exact List.takeWhile_eq_self_iff.mpr hcolon
    · rw [List.takeWhile_append_of_pos hcolon]
      simp
  rw [Parameter.bareName, String.toList_ofList, hbefore, trim_of_isName p.isName_name]

end WrittenParameter

/-! ## Heads -/

/-- The head of a function as it is written. -/
structure WrittenHead where
  visibility : Visibility
  name : List Char
  parameters : List WrittenParameter
  isName_name : isName isWord name = true

namespace WrittenHead

variable (h : WrittenHead)

/-- What stands before the keyword. -/
def lead : List Char :=
  match h.visibility with
  | .exported => exportKeyword ++ [' ']
  | .internal => []

/-- The parameters with commas between them. -/
def list : List Char :=
  joinWith [',', ' '] (h.parameters.map WrittenParameter.text)

/-- The head up to its parameter list. -/
def opening : List Char :=
  h.lead ++ (functionKeyword ++ ' ' :: (h.name ++ ['(']))

/-- The head of the function. -/
def text : List Char :=
  h.opening ++ (h.list ++ [')'])

/-- The line that the head stands on. -/
def line : List Char :=
  h.text ++ [' ', '{']

/-! ### The characters of the line -/

lemma all_list : h.list.all (isWordOr [',', ' ', ':']) = true := by
  rw [List.all_eq_true]
  intro c hc
  rw [isWordOr, Bool.or_eq_true, List.contains_iff_mem]
  rcases mem_joinWith hc with hglue | ⟨part, hpart, hmem⟩
  · exact Or.inr (List.mem_append_left [':'] hglue)
  · obtain ⟨p, -, rfl⟩ := List.mem_map.mp hpart
    have hp := List.all_eq_true.mp p.all_text c hmem
    rw [isWordOr, Bool.or_eq_true, List.contains_iff_mem] at hp
    refine hp.imp_right fun hmark => ?_
    simp only [List.mem_cons, List.not_mem_nil, or_false] at hmark ⊢
    exact Or.inr hmark.symm

lemma all_text : h.text.all (isWordOr [',', ' ', ':', '(', ')']) = true := by
  have hlead : h.lead.all (isWordOr [',', ' ', ':', '(', ')']) = true := by
    rw [lead]
    cases h.visibility <;> decide
  have hlist : h.list.all (isWordOr [',', ' ', ':', '(', ')']) = true :=
    all_isWordOr_append h.all_list ['(', ')']
  simp only [text, opening, List.all_append, List.all_cons, hlead, hlist,
    all_isWordOr_of_isName h.isName_name]
  decide

lemma all_line : h.line.all (isWordOr [',', ' ', ':', '(', ')', '{']) = true := by
  have htext : h.text.all (isWordOr [',', ' ', ':', '(', ')', '{']) = true :=
    all_isWordOr_append h.all_text ['{']
  rw [line, List.all_append, htext]
  decide

lemma scrubLine_line : scrubLine h.line = h.line :=
  scrubLine_plain (notMem_of_all_isWordOr h.all_line (by decide))
    (notMem_of_all_isWordOr h.all_line (by decide))

lemma scrub_line : scrub (h.line ++ ['\n']) = h.line ++ ['\n'] := by
  have hreturn : h.line.getLast? ≠ some '\r' := fun hlast =>
    notMem_of_all_isWordOr h.all_line (by decide) (List.mem_of_getLast? hlast)
  rw [scrub_feed (notMem_of_all_isWordOr h.all_line (by decide)) hreturn, scrubLine_line, scrub_nil]

lemma close_notMem_list : ')' ∉ h.list :=
  notMem_of_all_isWordOr h.all_list (by decide)

/-! ### Reading the head -/

/-- What is read in the head. -/
def head : Head :=
  ⟨h.visibility, h.name, byteLength h.opening, h.list⟩

/-- **A written head is read back**, whatever follows it. -/
lemma head?_text (rest : List Char) : head? (h.text ++ rest) = some (h.head, rest) := by
  have hlist : (h.list ++ ')' :: rest).takeWhile (· != ')') = h.list ∧
      (h.list ++ ')' :: rest).dropWhile (· != ')') = ')' :: rest := by
    have hall : ∀ c ∈ h.list, (c != ')') = true := by
      intro c hc
      rw [bne_iff_ne]
      rintro rfl
      exact h.close_notMem_list hc
    rw [List.takeWhile_append_of_pos hall, List.dropWhile_append_of_pos hall]
    simp
  have hname : name? isWord (h.name ++ '(' :: (h.list ++ ')' :: rest)) =
      some (h.name, '(' :: (h.list ++ ')' :: rest)) :=
    name?_append h.isName_name fun c hc => by
      obtain rfl : '(' = c := by simpa using hc
      decide
  have hgap : skipBlanks1? (' ' :: (h.name ++ '(' :: (h.list ++ ')' :: rest))) =
      some (h.name ++ '(' :: (h.list ++ ')' :: rest)) := skipBlanks1?_name h.isName_name _
  have hbytes : byteLength (h.text ++ rest) - byteLength (h.list ++ ')' :: rest) =
      byteLength h.opening := by
    rw [text, List.append_assoc, List.append_assoc, byteLength_append, List.singleton_append,
      Nat.add_sub_cancel]
  have htext : h.text ++ rest = h.lead ++ (functionKeyword ++
      ' ' :: (h.name ++ '(' :: (h.list ++ ')' :: rest))) := by
    simp [text, opening]
  have hopen : strip? ['('] (skipBlanks ('(' :: (h.list ++ ')' :: rest))) =
      some (h.list ++ ')' :: rest) := rfl
  have hclose : strip? [')'] (')' :: rest) = some rest := rfl
  cases hvisibility : h.visibility with
  | exported =>
    have hpub : (strip? ['p', 'u', 'b'] (h.text ++ rest)).bind skipBlanks1? =
        some (functionKeyword ++ ' ' :: (h.name ++ '(' :: (h.list ++ ')' :: rest))) := by
      rw [htext, lead, hvisibility]
      rfl
    have hkeyword : ∀ more, strip? ['f', 'n'] (functionKeyword ++ more) = some more :=
      fun more => strip?_eq_some_iff.mpr rfl
    simp only [head?, hpub, Option.bind_eq_bind, hkeyword, Option.bind_some, hgap, hname, hopen,
      hlist.1, hlist.2, hclose, hbytes, head, hvisibility]
  | internal =>
    have hpub : (strip? ['p', 'u', 'b'] (h.text ++ rest)).bind skipBlanks1? = none := by
      rw [htext, lead, hvisibility]
      rfl
    have hkeyword : strip? ['f', 'n'] (h.text ++ rest) =
        some (' ' :: (h.name ++ '(' :: (h.list ++ ')' :: rest))) := by
      rw [htext, lead, hvisibility]
      exact strip?_eq_some_iff.mpr rfl
    simp only [head?, hpub, Option.bind_eq_bind, hkeyword, Option.bind_some, hgap, hname, hopen,
      hlist.1, hlist.2, hclose, hbytes, head, hvisibility]

lemma text_ne_nil : h.text ≠ [] := by
  simp [text, opening]

/-! ### The parameters -/

/-- The list is split into the parameters that were written. -/
lemma split_list :
    Parameter.split (String.ofList h.list) =
      h.parameters.map fun p => String.ofList p.text := by
  have htrim : ∀ ps : List WrittenParameter,
      ((ps.map WrittenParameter.text).map trim).filter (· ≠ []) = ps.map WrittenParameter.text := by
    intro ps
    rw [List.map_map, List.filter_eq_self.mpr]
    · exact List.map_congr_left fun p _ => p.trim_text
    · intro part hpart
      obtain ⟨p, -, rfl⟩ := List.mem_map.mp hpart
      simpa [p.trim_text] using p.text_ne_nil
  rw [Parameter.split, String.toList_ofList, list]
  cases hparameters : h.parameters with
  | nil => rfl
  | cons p ps =>
    have hcomma :
        ∀ part ∈ p.text :: (ps.map WrittenParameter.text).map ([' '] ++ ·), ',' ∉ part := by
      intro part hpart hmem
      have hword : ∀ q : WrittenParameter, ',' ∉ q.text := fun q =>
        notMem_of_all_isWordOr q.all_text (by decide)
      rcases List.mem_cons.mp hpart with rfl | hpart
      · exact hword p hmem
      · simp only [List.mem_map, List.singleton_append] at hpart
        obtain ⟨_, ⟨q, -, rfl⟩, rfl⟩ := hpart
        exact hword q (by simpa using hmem)
    have hspaces : ((ps.map WrittenParameter.text).map ([' '] ++ ·)).map trim =
        (ps.map WrittenParameter.text).map trim := by
      rw [List.map_map]
      exact List.map_congr_left fun part _ => trim_space part
    rw [List.map_cons, joinWith_cons_glue, splitOn_joinWith (List.cons_ne_nil _ _) hcomma,
      List.map_cons, hspaces, ← List.map_cons, ← List.map_cons, htrim, List.map_map]
    rfl

lemma map_bareName_split_list :
    (Parameter.split (String.ofList h.list)).map Parameter.bareName =
      h.parameters.map fun p => String.ofList p.name := by
  rw [split_list, List.map_map]
  exact List.map_congr_left fun p _ => p.bareName_text

/-- No blank stands at either end of the list. -/
lemma trim_list : trim h.list = h.list := by
  rw [list]
  cases hparameters : h.parameters with
  | nil => rfl
  | cons p ps =>
    have hne : ∀ part ∈ (p :: ps).map WrittenParameter.text, part ≠ [] := by
      intro part hpart
      obtain ⟨q, -, rfl⟩ := List.mem_map.mp hpart
      exact q.text_ne_nil
    rw [trim_eq_self_iff, getLast?_joinWith hne, List.map_cons, head?_joinWith p.text_ne_nil,
      ← List.map_cons, List.getLast?_map]
    refine ⟨((trim_eq_self_iff _).mp p.trim_text).1, ?_⟩
    intro c hc
    obtain ⟨_, hpart, hlast⟩ := Option.bind_eq_some_iff.mp hc
    obtain ⟨q, -, rfl⟩ := Option.map_eq_some_iff.mp hpart
    exact ((trim_eq_self_iff _).mp q.trim_text).2 c hlast

/-! ### The name that the line declares -/

/-- The keyword with a blank behind it, as it stands before a name. -/
def spacedKeyword (blank : Char) : List Char := functionKeyword ++ [blank]

variable {blank : Char}

lemma notMem_spacedKeyword {c : Char} (hblank : isBlank blank = true) (hc : isBlank c = false)
    (hkeyword : c ∉ functionKeyword) : c ∉ spacedKeyword blank := by
  rw [spacedKeyword, List.mem_append, List.mem_singleton, not_or]
  refine ⟨hkeyword, ?_⟩
  rintro rfl
  rw [hblank] at hc
  cases hc

/-- No blank is in a name, and the space before a name stands behind no keyword. -/
lemma spacedKeyword_notIn_name (hblank : isBlank blank = true) {name : List Char}
    (hname : isName isWord name = true) : ¬ spacedKeyword blank <:+: ' ' :: name := by
  intro hin
  rcases List.infix_cons_iff.mp hin with hstart | hrest
  · rw [spacedKeyword, functionKeyword, List.cons_append, List.cons_prefix_cons] at hstart
    exact absurd hstart.1 (by decide)
  · have hmem : blank ∈ name := hrest.subset (by simp [spacedKeyword])
    have hpart := isWord_of_mem hname hmem
    rw [isWord_of_isBlank hblank] at hpart
    cases hpart

lemma spacedKeyword_notIn_parameter (hblank : isBlank blank = true) (p : WrittenParameter) :
    ¬ spacedKeyword blank <:+: ' ' :: p.text := by
  intro hin
  rw [WrittenParameter.text] at hin
  split at hin
  · exact spacedKeyword_notIn_name hblank p.isName_name hin
  · rename_i t htype
    have hcolon : ':' ∉ spacedKeyword blank := notMem_spacedKeyword hblank (by decide) (by decide)
    have hsplit : spacedKeyword blank <:+: (' ' :: p.name) ++ ':' :: (' ' :: t) := by
      simpa using hin
    rcases infix_of_append_separator hsplit hcolon with hname | htypeName
    · exact spacedKeyword_notIn_name hblank p.isName_name hname
    · exact spacedKeyword_notIn_name hblank (p.isName_type t htype) htypeName

/-- What follows the name on the line. -/
def rest : List Char :=
  '(' :: (h.list ++ [')', ' ', '{'])

/-- No blank stands behind a keyword in what follows the name. -/
lemma spacedKeyword_notIn_rest (hblank : isBlank blank = true) :
    ¬ spacedKeyword blank <:+: h.rest := by
  intro hin
  have hlength : ∀ cs : List Char, spacedKeyword blank <:+: cs → 3 ≤ cs.length := by
    intro cs hcs
    simpa [spacedKeyword, functionKeyword] using hcs.length_le
  have hopen : spacedKeyword blank <:+: [] ++ '(' :: (h.list ++ ')' :: [' ', '{']) := hin
  rcases infix_of_append_separator hopen (notMem_spacedKeyword hblank (by decide) (by decide)) with
    hnil | hrest
  · exact absurd (hlength _ hnil) (by simp)
  rcases infix_of_append_separator hrest (notMem_spacedKeyword hblank (by decide) (by decide)) with
    hlist | hbrace
  · rw [list] at hlist
    cases hparameters : h.parameters with
    | nil =>
      rw [hparameters] at hlist
      exact absurd (hlength _ hlist) (by simp [joinWith])
    | cons p ps =>
      rw [hparameters, List.map_cons, joinWith_cons_glue] at hlist
      obtain ⟨part, hpart, hword⟩ := infix_joinWith (by simp [spacedKeyword])
        (notMem_spacedKeyword hblank (by decide) (by decide)) hlist
      rcases List.mem_cons.mp hpart with rfl | hpart
      · exact spacedKeyword_notIn_parameter hblank p (hword.trans (List.suffix_cons _ _).isInfix)
      · simp only [List.mem_map, List.singleton_append] at hpart
        obtain ⟨_, ⟨q, -, rfl⟩, rfl⟩ := hpart
        exact spacedKeyword_notIn_parameter hblank q hword
  · exact absurd (hlength _ hbrace) (by simp)

lemma line_eq : h.line = h.lead ++ (functionKeyword ++ ' ' :: h.name ++ h.rest) := by
  simp [line, text, opening, rest]

/-- In what follows the name no other name is read. -/
lemma findAllFrom_rest (seen : List Char) :
    findAllFrom wordStart FunctionLine.named? seen 0 h.rest = [] := by
  refine List.eq_nil_iff_forall_not_mem.mpr fun found hfound => ?_
  obtain ⟨passed, input, after, hsplit, -, -, hread⟩ := read_of_mem_findAllFrom hfound
  simp only [FunctionLine.named?, Option.bind_eq_bind, Option.bind_eq_some_iff] at hread
  obtain ⟨afterKeyword, hkeyword, afterGap, hgap, -⟩ := hread
  obtain ⟨blank, more, rfl, hblank⟩ := blank_of_skipBlanks1? hgap
  have hinput : input = functionKeyword ++ blank :: more := strip?_eq_some_iff.mp hkeyword
  refine h.spacedKeyword_notIn_rest hblank ⟨passed, more, ?_⟩
  rw [hsplit, hinput, spacedKeyword]
  simp

lemma named?_name : FunctionLine.named? (functionKeyword ++ ' ' :: h.name ++ h.rest) =
    some (h.name, h.rest) := by
  have hkeyword : strip? ['f', 'n'] (functionKeyword ++ ' ' :: h.name ++ h.rest) =
      some (' ' :: (h.name ++ h.rest)) :=
    strip?_eq_some_iff.mpr (by simp [functionKeyword])
  have hname : name? isWord (h.name ++ h.rest) = some (h.name, h.rest) :=
    name?_append h.isName_name fun c hc => by
      obtain rfl : '(' = c := by simpa [rest] using hc
      decide
  simp only [FunctionLine.named?, Option.bind_eq_bind, hkeyword, Option.bind_some,
    skipBlanks1?_name h.isName_name, hname]

/-- No name is read before the keyword. -/
lemma named?_lead {tail after : List Char} (htail : tail <:+ h.lead) (hne : tail ≠ []) :
    FunctionLine.named? (tail ++ after) = none := by
  obtain ⟨c, tail, rfl⟩ := List.exists_cons_of_ne_nil hne
  have hlead : 'f' ∉ h.lead := by
    rw [lead]
    cases h.visibility <;> decide
  have hf : 'f' ≠ c := by
    rintro rfl
    exact hlead (htail.subset List.mem_cons_self)
  rw [List.cons_append, FunctionLine.named?, strip?, if_neg hf]
  rfl

lemma wordStart_lead : wordStart (h.lead.reverse ++ []).head? = true := by
  rw [lead]
  cases h.visibility <;> decide

/-- **The line of a head declares the function of the head** and no other. -/
lemma declares_line (name : String) :
    FunctionLine.declares name h.line = (String.ofList h.name == name) := by
  have hne : functionKeyword ++ ' ' :: h.name ≠ [] := by simp
  rw [FunctionLine.declares, scrubLine_line, line_eq, findAll,
    findAllFrom_passage fun _ htail hne => h.named?_lead htail hne,
    findAllFrom_item hne h.wordStart_lead h.named?_name, findAllFrom_rest]
  simp

end WrittenHead

end LanguageServer.Symbol
