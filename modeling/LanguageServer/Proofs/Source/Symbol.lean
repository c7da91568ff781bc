import LanguageServer.Proofs.Source.Find
import LanguageServer.Proofs.Text.Split
import LanguageServer.Source.Symbol

/-!
# Declarations as they stand in a text

`Symbol.DeclaresExported` says, without a reader, what it means that a scrubbed text declares a
function for other modules: at the start of a word stand `pub`, `fn`, the name and a parameter list,
with blanks between them.  Every symbol that is found for an importing module comes from such a
place of the text (`Symbol.declaresExported_of_mem_scan`), and its name is a name of word characters
in any case (`Symbol.isName_of_mem_scan`).
-/

namespace LanguageServer.Symbol

open Text Source

/-- The keyword before a declaration that other modules see. -/
def exportKeyword : List Char := ['p', 'u', 'b']

/-- The keyword of a declaration. -/
def functionKeyword : List Char := ['f', 'n']

/-- The text declares a function of this name that other modules see. -/
def DeclaresExported (text name : List Char) : Prop :=
  ∃ before gap gap' blanks parameters after,
    text = before ++ exportKeyword ++ gap ++ functionKeyword ++ gap' ++ name ++ blanks ++
      '(' :: parameters ++ ')' :: after ∧
    wordStart before.getLast? = true ∧ isGap gap = true ∧ isGap gap' = true ∧
    isName isWord name = true ∧ isBlankText blanks = true ∧ ')' ∉ parameters

/-- The head stands at the beginning of the first text, and the second one is what follows it. -/
structure Head.Spells (head : Head) (cs rest : List Char) : Prop where
  isName : isName isWord head.name = true
  parameters : ')' ∉ head.parameters
  pieces : ∃ lead gap blanks,
    cs = lead ++ functionKeyword ++ gap ++ head.name ++ blanks ++
      '(' :: head.parameters ++ ')' :: rest ∧
    isGap gap = true ∧ isBlankText blanks = true ∧
    (head.visibility = .exported → ∃ gap', lead = exportKeyword ++ gap' ∧ isGap gap' = true)

/-- What follows the visibility in a declaration: the keyword, the name and the parameter list. -/
lemma spells_of_signature {visibility : Visibility} {start : Nat}
    {lead after afterKeyword afterGap name afterName list rest : List Char}
    (hkeyword : strip? functionKeyword after = some afterKeyword)
    (hgap : skipBlanks1? afterKeyword = some afterGap)
    (hname : name? isWord afterGap = some (name, afterName))
    (hopen : strip? ['('] (skipBlanks afterName) = some list)
    (hclose : strip? [')'] (list.dropWhile (· != ')')) = some rest)
    (hlead : visibility = .exported → ∃ gap, lead = exportKeyword ++ gap ∧ isGap gap = true) :
    Head.Spells ⟨visibility, name, start, list.takeWhile (· != ')')⟩ (lead ++ after) rest := by
  obtain ⟨gap, hisGap, rfl⟩ := gap_of_skipBlanks1? hgap
  obtain ⟨hisName, rfl⟩ := name_of_name? hname
  have hblanks : afterName = afterName.takeWhile isBlank ++ '(' :: list := by
    rw [← List.singleton_append, ← strip?_eq_some_iff.mp hopen, blanks_append_skipBlanks]
  have hparameters : list = list.takeWhile (· != ')') ++ ')' :: rest := by
    rw [← List.singleton_append, ← strip?_eq_some_iff.mp hclose, List.takeWhile_append_dropWhile]
  refine ⟨hisName, fun hmem => ?_, lead, gap, afterName.takeWhile isBlank, ?_, hisGap,
    isBlankText_takeWhile afterName, hlead⟩
  · have hne := List.all_eq_true.mp (List.all_takeWhile (l := list)) _ hmem
    simp at hne
  · rw [strip?_eq_some_iff.mp hkeyword]
    conv => lhs; rw [hblanks, hparameters]
    simp only [List.append_assoc, List.cons_append]

lemma spells_of_head? {cs rest : List Char} {head : Head} (h : head? cs = some (head, rest)) :
    head.Spells cs rest := by
  simp only [head?, Option.bind_eq_bind, Option.bind_eq_some_iff] at h
  split at h
  · rename_i after hafter
    obtain ⟨afterPub, hpub, hgap⟩ := Option.bind_eq_some_iff.mp hafter
    obtain ⟨gap, hisGap, rfl⟩ := gap_of_skipBlanks1? hgap
    have hlead : cs = exportKeyword ++ gap ++ after := by
      rw [List.append_assoc]
      exact strip?_eq_some_iff.mp hpub
    obtain ⟨_, hkeyword, _, hgap', _, hname, _, hopen, _, hclose, hhead⟩ := h
    cases hhead
    rw [hlead]
    exact spells_of_signature hkeyword hgap' hname hopen hclose fun _ => ⟨gap, rfl, hisGap⟩
  · obtain ⟨_, hkeyword, _, hgap, _, hname, _, hopen, _, hclose, hhead⟩ := h
    cases hhead
    rw [← List.nil_append cs]
    exact spells_of_signature hkeyword hgap hname hopen hclose nofun

/-! ## Symbols -/

variable {text : String} {qualifier : Option String} {scope : Scope} {symbol : Symbol}

lemma spells_of_mem_scan (h : symbol ∈ scan text qualifier scope) :
    ∃ (found : Found Head) (input rest : List Char),
      scrub text.toList = found.before ++ input ∧ wordStart found.before.getLast? = true ∧
      found.value.Spells input rest ∧ (scope = .imported → found.value.visibility = .exported) ∧
      symbol = ofFound text.toList qualifier found := by
  obtain ⟨found, hfound, rfl⟩ := List.mem_map.mp h
  obtain ⟨hmem, hscope⟩ := List.mem_filter.mp hfound
  obtain ⟨input, rest, htext, hstart, hread⟩ := read_of_mem_findAll hmem
  refine ⟨found, input, rest, htext, hstart, spells_of_head? hread, ?_, rfl⟩
  rintro rfl
  simpa using hscope

lemma isName_of_mem_scan (h : symbol ∈ scan text qualifier scope) :
    isName isWord symbol.name.toList = true := by
  obtain ⟨found, _, _, -, -, hspells, -, rfl⟩ := spells_of_mem_scan h
  simpa [ofFound] using hspells.isName

lemma dot_notMem_of_mem_scan (h : symbol ∈ scan text qualifier scope) :
    '.' ∉ symbol.name.toList :=
  notMem_of_isName (isName_of_mem_scan h) (by decide) (by decide)

lemma qualifiedName_of_mem_scan (hqualifier : qualifier ≠ some "")
    (h : symbol ∈ scan text qualifier scope) :
    symbol.qualifiedName = (qualifier.map (· ++ "." ++ symbol.name)).getD symbol.name := by
  obtain ⟨found, _, _, -, -, -, -, rfl⟩ := spells_of_mem_scan h
  cases qualifier with
  | none => rfl
  | some q =>
    have hq : q ≠ "" := fun hempty => hqualifier (congrArg some hempty)
    simp [ofFound, hq]

/-- A function of the document itself is not called behind a name and a dot. -/
lemma qualifiedName_ne_dotted (h : symbol ∈ scan text none scope) (lead name : String) :
    symbol.qualifiedName ≠ lead ++ "." ++ name := by
  intro hdotted
  have hname : symbol.qualifiedName = symbol.name := qualifiedName_of_mem_scan (by simp) h
  have hbare := dot_notMem_of_mem_scan h
  rw [← hname, hdotted] at hbare
  exact hbare (dot_mem_dotted lead name)

/-- **What an importing module sees is declared for other modules.** -/
lemma declaresExported_of_mem_scan (h : symbol ∈ scan text qualifier .imported) :
    symbol.visibility = .exported ∧
      DeclaresExported (scrub text.toList) symbol.name.toList := by
  obtain ⟨found, input, rest, htext, hstart, hspells, hvisible, rfl⟩ := spells_of_mem_scan h
  have hexported := hvisible rfl
  obtain ⟨lead, gap, blanks, hinput, hgap, hblanks, hlead⟩ := hspells.pieces
  obtain ⟨gap', rfl, hgap'⟩ := hlead hexported
  refine ⟨hexported, found.before, gap', gap, blanks, found.value.parameters, rest, ?_, hstart,
    hgap', hgap, isName_of_mem_scan h, hblanks, hspells.parameters⟩
  rw [htext, hinput]
  simp only [ofFound, String.toList_ofList, List.append_assoc]

end LanguageServer.Symbol
