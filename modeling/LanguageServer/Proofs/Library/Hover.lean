import Mathlib.Data.List.Find
import LanguageServer.Proofs.Library.Module
import LanguageServer.Proofs.Symbols.Fallback
import LanguageServer.Query.Hover
import LanguageServer.Query.Signature

/-!
# What a bare word means to the library

The library is asked about a bare word in two ways.  Hover asks for a text that was collected under
the word (`Library.hover?`), signature help for the first function with the word as its last segment
(`Library.findBare?`).  The texts are collected under the names of the rows, while the search takes
qualified names apart again, so the two speak of the same function only if no name moves a part of
itself into its module.

Where the names of functions hold no dots and are no attributes, both mean the first function of the
name.  A word that names no function stands for an attribute, and otherwise for the first constant
of the name (`Library.bare_word_means_first_function`).

The texts can also be collected row after row (`collected`): an attribute takes the place of a text
that is there, a function or a constant leaves it alone.  This comes to the same as long as no key
occurs twice (`textUnder?_collected`).
-/

namespace LanguageServer

namespace Library

/-! ## Texts collected row after row -/

/-- The text under the word. -/
def textUnder? (texts : List (String × String)) (word : String) : Option String :=
  (texts.find? (·.1 == word)).map (·.2)

/-- Puts a text under a word that has none yet. -/
def putNew (word text : String) (texts : List (String × String)) : List (String × String) :=
  if (textUnder? texts word).isSome then texts else texts ++ [(word, text)]

/-- The hover texts of the tables, collected row after row: those of the attributes, then those of
the functions and then those of the constants. -/
def collected (functions : List FunctionRow) (constants : List ConstantRow)
    (attributes : List Attribute) : List (String × String) :=
  let texts := attributes.foldl (fun texts a => putUnder a.name a.documentation texts) []
  let texts := functions.foldl (fun texts row => putNew row.name row.function.hover texts) texts
  constants.foldl (fun texts row => putNew row.name row.constant.hover texts) texts

variable (texts : List (String × String)) (word : String)

lemma textUnder?_append (more : List (String × String)) :
    textUnder? (texts ++ more) word = (textUnder? texts word).or (textUnder? more word) := by
  rw [textUnder?, List.find?_append, Option.map_or]
  rfl

lemma textUnder?_map {α : Type} (nameOf textOf : α → String) (rows : List α) :
    textUnder? (rows.map fun row => (nameOf row, textOf row)) word =
      (rows.find? (nameOf · == word)).map textOf := by
  rw [textUnder?, List.find?_map, Option.map_map]
  rfl

lemma textUnder?_putUnder (name text : String) :
    textUnder? (putUnder name text texts) word =
      if name = word then some text else textUnder? texts word :=
  find?_putUnder texts name word text

lemma textUnder?_putNew (name text : String) :
    textUnder? (putNew name text texts) word =
      (textUnder? texts word).or (if name = word then some text else none) := by
  have hsingle : textUnder? [(name, text)] word = if name = word then some text else none := by
    by_cases h : name = word <;> simp [textUnder?, h]
  rw [putNew]
  split
  · rename_i htaken
    by_cases h : name = word
    · rw [h] at htaken
      rw [Option.or_of_isSome htaken]
    · rw [if_neg h, Option.or_none]
  · rw [textUnder?_append, hsingle]

lemma textUnder?_foldl_putUnder {α : Type} (nameOf textOf : α → String) (rows : List α) :
    textUnder? (rows.foldl (fun texts row => putUnder (nameOf row) (textOf row) texts) texts) word =
      ((rows.findRev? (nameOf · == word)).map textOf).or (textUnder? texts word) := by
  induction rows generalizing texts with
  | nil => rfl
  | cons row rows ih =>
    rw [List.foldl_cons, ih, textUnder?_putUnder, List.findRev?]
    cases rows.findRev? (nameOf · == word) with
    | some other => rfl
    | none => by_cases h : nameOf row = word <;> simp [h]

lemma textUnder?_foldl_putNew {α : Type} (nameOf textOf : α → String) (rows : List α) :
    textUnder? (rows.foldl (fun texts row => putNew (nameOf row) (textOf row) texts) texts) word =
      (textUnder? texts word).or ((rows.find? (nameOf · == word)).map textOf) := by
  induction rows generalizing texts with
  | nil => rw [List.foldl_nil, List.find?_nil, Option.map_none, Option.or_none]
  | cons row rows ih =>
    rw [List.foldl_cons, ih, textUnder?_putNew, Option.or_assoc]
    by_cases h : nameOf row = word
    · rw [if_pos h, List.find?_cons_of_pos (by simpa using h), Option.some_or, Option.map_some]
    · rw [if_neg h, List.find?_cons_of_neg (by simpa using h), Option.none_or]

/-! ## The two answers of the library -/

variable {functions : List FunctionRow} {constants : List ConstantRow}
  {attributes : List Attribute} {library : Library}

lemma eq_of_ofTables (h : ofTables functions constants attributes = .ok library) :
    library =
      ⟨functions.map FunctionRow.function, constants.map ConstantRow.constant, attributes⟩ := by
  unfold ofTables at h
  split at h
  · cases h
  · exact (Except.ok.inj h).symm

lemma nodup_attributes (h : ofTables functions constants attributes = .ok library) :
    (attributes.map (·.name)).Nodup := by
  unfold ofTables at h
  split at h
  · cases h
  · rename_i hnone
    exact ((duplicate?_eq_none_iff [] _).mp hnone).1.of_append_right

lemma hover?_eq (h : ofTables functions constants attributes = .ok library) :
    library.hover? word =
      ((attributes.find? (·.name == word)).map (·.documentation)).or
        (((functions.find? (·.name == word)).map (·.function.hover)).or
          ((constants.find? (·.name == word)).map (·.constant.hover))) := by
  have hhovers : library.hover? word = textUnder? library.hovers word := rfl
  have hfunctions : (functions.map FunctionRow.function).map (fun f => (f.bareName, f.hover)) =
      functions.map fun row => (row.name, row.function.hover) := List.map_map
  have hconstants : (constants.map ConstantRow.constant).map (fun c => (c.bareName, c.hover)) =
      constants.map fun row => (row.name, row.constant.hover) := List.map_map
  rw [hhovers, hovers, eq_of_ofTables h]
  simp only [hfunctions, hconstants, textUnder?_append, textUnder?_map, Option.or_assoc]

/-- **The texts that are collected row after row** are those that hover shows. -/
lemma textUnder?_collected (h : ofTables functions constants attributes = .ok library) :
    textUnder? (collected functions constants attributes) word = library.hover? word := by
  have hempty : textUnder? [] word = none := rfl
  simp only [collected]
  rw [textUnder?_foldl_putNew, textUnder?_foldl_putNew, textUnder?_foldl_putUnder, hempty,
    Option.or_none, findRev?_eq_find?_of_nodup (nodup_attributes h), hover?_eq word h,
    Option.or_assoc]

lemma findBare?_eq (h : ofTables functions constants attributes = .ok library)
    (hdot : ∀ row ∈ functions, '.' ∉ row.name.toList) :
    library.findBare? word = (functions.find? (·.name == word)).map FunctionRow.function := by
  rw [findBare?, functions_ofTables h, List.find?_map]
  congr 1
  refine List.find?_congr fun row hrow => ?_
  rw [Function.comp_apply, FunctionRow.function, QualifiedName.last_make (hdot row hrow)]

/-- Functions and attributes that share no names: the functions come first. -/
lemma hover?_eq_of_apart (h : ofTables functions constants attributes = .ok library)
    (hapart : ∀ row ∈ functions, ∀ a ∈ attributes, row.name ≠ a.name) :
    library.hover? word =
      ((functions.find? (·.name == word)).map (·.function.hover)).or
        (((attributes.find? (·.name == word)).map (·.documentation)).or
          ((constants.find? (·.name == word)).map (·.constant.hover))) := by
  rw [hover?_eq word h]
  cases hfunction : functions.find? (·.name == word) with
  | none => rfl
  | some row =>
    have hname : row.name = word := by simpa using List.find?_some hfunction
    have hnone : attributes.find? (·.name == word) = none := by
      refine List.find?_eq_none.mpr fun a ha => ?_
      have hne := hapart row (List.mem_of_find?_eq_some hfunction) a ha
      simpa [← hname] using hne.symm
    rw [hnone]
    rfl

/-! ## The answers to a request -/

variable {word} {snapshot : Snapshot} {f : LibraryFunction}

/-- Where the table has no entry under a word without a dot, hover shows what the library has to say
about it. -/
lemma hoverWord?_of_notMem (hdot : '.' ∉ word.toList) (hkey : word ∉ snapshot.table.keys) :
    Query.hoverWord? snapshot word = snapshot.library.hover? word := by
  rw [Query.hoverWord?]
  split
  · rfl
  · rw [if_neg (by simpa using hdot), Query.hoverPlain?,
      (SymbolTable.get?_eq_none_iff _ _).mpr hkey]
    rfl

/-- Where the table has no entry under a word, and no import gives its name to the module of the
function that the library finds, the entry that is looked up describes this function. -/
lemma exists_lookup_describes
    (h : ofTables functions constants attributes = .ok snapshot.library)
    (hkey : word ∉ snapshot.table.keys) (hfound : snapshot.library.findBare? word = some f)
    (halternate : ∀ imp ∈ Import.scan snapshot.text, imp.alternate ≠ some f.name.module) :
    ∃ entry, snapshot.table.lookup snapshot.library word = some entry ∧ entry.Describes f := by
  have hf := List.mem_of_find?_eq_some hfound
  obtain ⟨entry, hentry, hiff⟩ :=
    SymbolTable.exists_get?_name h hf snapshot.imports snapshot.text
  have hlookup : snapshot.table.lookup snapshot.library word = some entry := by
    rw [SymbolTable.lookup_eq_bind hkey, hfound, Option.bind_some]
    exact hentry
  refine ⟨entry, hlookup, hiff.mpr fun last hlast => ?_⟩
  rw [List.findRev?_eq_find?_reverse] at hlast
  have hlastKey : f.name.text ∈ last.keys snapshot.library := by simpa using List.find?_some hlast
  obtain ⟨imp, himp, rfl⟩ :=
    List.mem_map.mp (List.mem_reverse.mp (List.mem_of_find?_eq_some hlast))
  exact ResolvedImport.keeps_of_alternate_ne h hf (halternate imp himp) hlastKey

/-- **Hover and signature help mean the same library function by a bare word.**  For all tables that
are accepted, in which the names of functions hold no dots and are no attributes: if some function
has the word as its name, then both answers are about the first such function; otherwise hover shows
the attribute of this name, and otherwise the first constant, if there is one.  The texts are those
that are collected row after row.

In a document that has nothing of its own under the word, and that imports nothing in the name of
the module of the function, hover shows the function and signature help its parameters. -/
theorem bare_word_means_first_function
    (h : ofTables functions constants attributes = .ok library)
    (hdot : ∀ row ∈ functions, '.' ∉ row.name.toList)
    (hapart : ∀ row ∈ functions, ∀ a ∈ attributes, row.name ≠ a.name) (word : String) :
    ((∃ row ∈ functions, row.name = word) →
      ∃ row, functions.find? (·.name == word) = some row ∧
        library.findBare? word = some row.function ∧
        library.hover? word = some row.function.hover ∧
        ∀ snapshot : Snapshot, snapshot.library = library → word ∉ snapshot.table.keys →
          (∀ imp ∈ Import.scan snapshot.text, imp.alternate ≠ some row.module) → word ≠ "" →
          Query.hoverWord? snapshot word = some row.function.hover ∧
          ∀ argument, ∃ help, Query.signatureAt? snapshot ⟨word, argument⟩ = some help ∧
            help.documentation = row.documentation ∧
            help.parameters = row.function.parameters) ∧
    ((∀ row ∈ functions, row.name ≠ word) →
      library.findBare? word = none ∧
      (∀ a ∈ attributes, a.name = word → library.hover? word = some a.documentation) ∧
      ((∀ a ∈ attributes, a.name ≠ word) →
        library.hover? word = (constants.find? (·.name == word)).map (·.constant.hover))) ∧
    textUnder? (collected functions constants attributes) word = library.hover? word := by
  have hbare := findBare?_eq word h hdot
  have hhover := hover?_eq_of_apart word h hapart
  refine ⟨fun hnamed => ?_, fun hunnamed => ?_, textUnder?_collected word h⟩
  · obtain ⟨row, hrow⟩ : ∃ row, functions.find? (·.name == word) = some row := by
      rw [← Option.isSome_iff_exists, List.find?_isSome]
      simpa using hnamed
    have hmem := List.mem_of_find?_eq_some hrow
    have hname : row.name = word := by simpa using List.find?_some hrow
    rw [hrow] at hbare hhover
    refine ⟨row, hrow, hbare, hhover, ?_⟩
    rintro snapshot rfl hkey halternate hne
    refine ⟨?_, fun argument => ?_⟩
    · rw [hoverWord?_of_notMem (hname ▸ hdot row hmem) hkey]
      exact hhover
    · have hmodule : row.function.name.module = row.module :=
        QualifiedName.module_make (hdot row hmem)
      obtain ⟨entry, hentry, hdescribes⟩ :=
        exists_lookup_describes h hkey hbare (by rwa [hmodule])
      exact ⟨_, by rw [Query.signatureAt?, if_neg hne, hentry, Option.map_some],
        hdescribes.documentation, hdescribes.parameters⟩
  · have hnone : functions.find? (·.name == word) = none :=
      List.find?_eq_none.mpr (by simpa using hunnamed)
    rw [hnone, Option.map_none] at hbare hhover
    rw [Option.none_or] at hhover
    refine ⟨hbare, fun a ha hname => ?_, fun hother => ?_⟩
    · have hfound : attributes.find? (·.name == word) = some a :=
        (find?_eq_some_iff_of_nodup (nodup_attributes h)).mpr ⟨ha, hname⟩
      rw [hhover, hfound]
      rfl
    · have hfound : attributes.find? (·.name == word) = none :=
        List.find?_eq_none.mpr (by simpa using hother)
      rw [hhover, hfound]
      rfl

/-- Two modules with a function of one name, which is the name of a constant as well, in a document
that imports the second of them; and a constant and an attribute that share their names with no
function. -/
theorem bare_word_means_first_function_shared :
    let print : FunctionRow := ⟨"io", "print", ["value"], [], none, "Prints."⟩
    let log : FunctionRow := ⟨"log", "print", ["level", "message"], [], none, "Logs."⟩
    let constants : List ConstantRow := [⟨"page", "print", "1"⟩, ⟨"math", "E", "2.718"⟩]
    let effectless : Attribute := ⟨"@pure", "Has no effects."⟩
    let library : Library :=
      ⟨[print.function, log.function], constants.map ConstantRow.constant, [effectless]⟩
    let snapshot : Snapshot :=
      { address := ⟨"untitled", none, .plain "new", none, none⟩
        text := "needs std.log\nprint(1)"
        path := none
        library
        sources := ⟨.empty, []⟩ }
    ofTables [print, log] constants [effectless] = .ok library ∧
      library.findBare? "print" = some print.function ∧
      Query.hoverWord? snapshot "print" = some print.function.hover ∧
      (∃ help, Query.signatureAt? snapshot ⟨"print", 0⟩ = some help ∧
        help.documentation = "Prints." ∧ help.parameters = [⟨"value", none⟩]) ∧
      library.hover? "@pure" = some "Has no effects." ∧
      library.hover? "E" = some "```rust\nmath.E\n```\n2.718" := by
  intro print log constants effectless library snapshot
  have hlibrary : ofTables [print, log] constants [effectless] = .ok library := by rfl
  have hdot : ∀ row ∈ [print, log], '.' ∉ row.name.toList := by decide +kernel
  have hapart : ∀ row ∈ [print, log], ∀ a ∈ [effectless], row.name ≠ a.name := by decide +kernel
  have hkey : "print" ∉ snapshot.table.keys := by decide +kernel
  have halternate : ∀ imp ∈ Import.scan snapshot.text, imp.alternate ≠ some "io" := by
    decide +kernel
  obtain ⟨hfirst, -, -⟩ := bare_word_means_first_function hlibrary hdot hapart "print"
  obtain ⟨-, hattribute, -⟩ := bare_word_means_first_function hlibrary hdot hapart "@pure"
  obtain ⟨-, hconstant, -⟩ := bare_word_means_first_function hlibrary hdot hapart "E"
  obtain ⟨row, hrow, hbare, -, hanswers⟩ := hfirst ⟨print, by simp, rfl⟩
  obtain rfl : print = row := Option.some.inj hrow
  obtain ⟨hhover, hhelp⟩ := hanswers snapshot rfl hkey halternate (by decide)
  refine ⟨hlibrary, hbare, hhover, hhelp 0, ?_, ?_⟩
  · exact (hattribute (by decide +kernel)).2.1 effectless (by simp) rfl
  · refine ((hconstant (by decide +kernel)).2.2 (by decide +kernel)).trans ?_
    decide +kernel

end Library

end LanguageServer
