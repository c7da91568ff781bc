import LanguageServer.Proofs.Document.Splice
import LanguageServer.Proofs.Library.Module
import LanguageServer.Proofs.Source.CallSite
import LanguageServer.Proofs.Source.ImportLine
import LanguageServer.Proofs.Source.Resolve
import LanguageServer.Query.Signature

/-!
# Signature help for a function of the library behind an alias

A document imports a module of the library under an alias and calls a function of it.  While the
arguments are being written, signature help shows the function under the alias and marks the
parameter that belongs to the argument at the end (`Query.signature_of_aliased_call`), whatever the
arguments are: they may hold calls and even declarations of their own.

* The end of the text is found from its line and column (`Query.locate?_document`).
* The call is found by going back over the arguments, and the function is the alias, a dot and the
  name.
* The import is the only one, since no argument holds the word that imports begin with
  (`Query.scan_document`).
* No function of the document is in the way, because names have no dots, and the import contributes
  the function under the alias (`Import.contribution?_alias`).
-/

namespace LanguageServer

open Text Source

/-! ## What an import under an alias contributes -/

namespace Import

/-- An import of a library module under an alias. -/
def ofLibrary (module alternate : String) (line : Nat) : Import :=
  ⟨"std." ++ module, some alternate, line⟩

variable {module alternate : String} {line : Nat}

lemma segments_ofLibrary (hmodule : '.' ∉ module.toList) :
    (ofLibrary module alternate line).segments = ["std", module] := by
  have hpath : ("std." ++ module).toList = ['s', 't', 'd'] ++ '.' :: module.toList := by simp
  rw [segments, ofLibrary, hpath, splitOn_append, splitOn_of_notMem hmodule,
    splitOn_of_notMem (by decide), List.singleton_append, List.map_cons, List.map_singleton,
    String.ofList_toList]

lemma isStandard_ofLibrary (hmodule : '.' ∉ module.toList) :
    (ofLibrary module alternate line).isStandard = true := by
  rw [isStandard, segments_ofLibrary hmodule]
  rfl

lemma stdModule_ofLibrary (hmodule : '.' ∉ module.toList) :
    (ofLibrary module alternate line).stdModule = module :=
  String.toList_inj.mp
    (toList_stdModule (isStandard_ofLibrary hmodule) (segments_ofLibrary hmodule))

variable {functions : List FunctionRow} {constants : List ConstantRow}
  {attributes : List Attribute} {library : Library} {sources : Sources} {directory : Option Path}

/-- The label of a function behind another name than that of its module. -/
def aliasedLabel (row : FunctionRow) (alternate : String) : String :=
  alternate ++ "." ++ row.name ++ "(" ++ ", ".intercalate row.parameters ++ ")"

lemma replaceFirst_label (row : FunctionRow) (alternate : String) :
    String.ofList (replaceFirst row.module.toList alternate.toList row.function.label.toList) =
      aliasedLabel row alternate := by
  have hlabel : row.function.label.toList = row.module.toList ++
      ("." ++ row.name ++ "(" ++ ", ".intercalate row.parameters ++ ")").toList := by
    simp [FunctionRow.function, QualifiedName.make]
  rw [hlabel, replaceFirst_append, aliasedLabel, ← String.toList_inj]
  simp

lemma contribution?_alias (h : Library.ofTables functions constants attributes = .ok library)
    (hplain : ∀ row ∈ functions, row.Plain) {row : FunctionRow} (hrow : row ∈ functions) :
    ((ofLibrary row.module alternate line).resolve sources directory).contribution? library
        (alternate ++ "." ++ row.name) =
      some (.ofLibrary row.function (aliasedLabel row alternate) .libraryImport) := by
  have hdot := (hplain row hrow).dot_notMem_module
  have hresolved : (ofLibrary row.module alternate line).resolve sources directory =
      ⟨ofLibrary row.module alternate line, .standard⟩ := by
    rw [resolve, if_pos (isStandard_ofLibrary hdot)]
  have hkeys : (fun f : LibraryFunction =>
        ResolvedImport.libraryKey (ofLibrary row.module alternate line) f ==
          alternate ++ "." ++ row.name) = fun f => f.name.last == row.name := by
    funext f
    rw [Bool.eq_iff_iff, beq_iff_eq, beq_iff_eq, ResolvedImport.libraryKey, ← String.toList_inj,
      ← String.toList_inj]
    simp [ofLibrary]
  rw [hresolved]
  simp only [ResolvedImport.contribution?, stdModule_ofLibrary hdot, hkeys,
    Library.findRev?_moduleFunctions h hplain hrow, Option.map_some]
  rw [← replaceFirst_label row]
  rfl

end Import

namespace Query

/-! ## The document -/

/-- The line that imports the module of the function under the alias. -/
def importLine (row : FunctionRow) (alternate : String) : String :=
  "needs std." ++ row.module ++ " as " ++ alternate

/-- The line that calls the function behind the alias, up to the end of the last argument. -/
def callLine (row : FunctionRow) (alternate : String) (arguments : List String) : String :=
  alternate ++ "." ++ row.name ++ "(" ++ ",".intercalate arguments

/-- Is the character none that a literal, a comment or the end of a line begins with? -/
def isOrdinary (c : Char) : Bool :=
  c != '"' && c != '/' && c != '\n' && c != '\r'

/-- The text can be written as an argument on one line: its parentheses are paired and its commas
inside them, it holds no literal and no comment, and not the word that imports begin with. -/
structure IsArgument (text : List Char) : Prop where
  isClosed : CallSite.isClosed text = true
  ordinary : text.all isOrdinary = true
  keyword : holdsWord Import.keyword text = false

instance : DecidablePred IsArgument := fun text =>
  decidable_of_iff (CallSite.isClosed text = true ∧ text.all isOrdinary = true ∧
      holdsWord Import.keyword text = false)
    ⟨fun h => ⟨h.1, h.2.1, h.2.2⟩, fun h => ⟨h.isClosed, h.ordinary, h.keyword⟩⟩

variable {row : FunctionRow} {alternate : String} {arguments : List String}

lemma toList_importLine (row : FunctionRow) (alternate : String) :
    (importLine row alternate).toList =
      Import.written [['s', 't', 'd'], row.module.toList] alternate.toList := by
  simp [importLine, Import.written, Import.keyword, Import.beforeAlternate, joinWith]

lemma toList_callLine (row : FunctionRow) (alternate : String) (arguments : List String) :
    (callLine row alternate arguments).toList = alternate.toList ++ '.' ::
      (row.name.toList ++ '(' :: joinWith [','] (arguments.map String.toList)) := by
  simp [callLine, joinWith_eq_intercalate, String.toList_intercalate]

lemma ordinary_name {name : List Char} (hname : isName isNamePart name = true) :
    name.all isOrdinary = true := by
  rw [List.all_eq_true]
  intro c hc
  have hpart := isNamePart_of_mem hname hc
  simp only [isOrdinary, Bool.and_eq_true, bne_iff_ne]
  refine ⟨⟨⟨?_, ?_⟩, ?_⟩, ?_⟩ <;> rintro rfl <;> exact absurd hpart (by decide)

lemma ordinary_importLine (hrow : row.Plain)
    (halternate : isName isNamePart alternate.toList = true) :
    (importLine row alternate).toList.all isOrdinary = true := by
  have hkeyword : Import.keyword.all isOrdinary = true := by decide
  have hpath : (['s', 't', 'd'] ++ ['.'] : List Char).all isOrdinary = true := by decide
  have has : Import.beforeAlternate.all isOrdinary = true := by decide
  have hblank : isOrdinary ' ' = true := by decide
  rw [toList_importLine, Import.written, joinWith, joinWith]
  simp only [List.all_append, List.all_cons, Bool.and_eq_true] at hpath ⊢
  exact ⟨hkeyword, hblank, ⟨hpath, ordinary_name hrow.module⟩, has, ordinary_name halternate⟩

lemma ordinary_arguments (harguments : ∀ argument ∈ arguments, IsArgument argument.toList) :
    (joinWith [','] (arguments.map String.toList)).all isOrdinary = true := by
  rw [List.all_eq_true]
  intro c hc
  rcases mem_joinWith hc with hcomma | ⟨_, hargument, hc⟩
  · rw [List.mem_singleton.mp hcomma]
    decide
  · obtain ⟨argument, hmem, rfl⟩ := List.mem_map.mp hargument
    exact List.all_eq_true.mp (harguments argument hmem).ordinary c hc

lemma ordinary_callLine (hrow : row.Plain)
    (halternate : isName isNamePart alternate.toList = true)
    (harguments : ∀ argument ∈ arguments, IsArgument argument.toList) :
    (callLine row alternate arguments).toList.all isOrdinary = true := by
  have hdot : isOrdinary '.' = true := by decide
  have hopen : isOrdinary '(' = true := by decide
  rw [toList_callLine]
  simp only [List.all_append, List.all_cons, Bool.and_eq_true]
  exact ⟨ordinary_name halternate, hdot, ordinary_name hrow.name, hopen,
    ordinary_arguments harguments⟩

lemma notMem_of_ordinary {text : List Char} (h : text.all isOrdinary = true) {c : Char}
    (hc : isOrdinary c = false) : c ∉ text := by
  intro hmem
  rw [List.all_eq_true.mp h c hmem] at hc
  cases hc

/-- The document of the two lines. -/
def document (row : FunctionRow) (alternate : String) (arguments : List String) : String :=
  importLine row alternate ++ "\n" ++ callLine row alternate arguments

lemma toList_document (row : FunctionRow) (alternate : String) (arguments : List String) :
    (document row alternate arguments).toList =
      (importLine row alternate).toList ++ '\n' :: (callLine row alternate arguments).toList := by
  simp [document]

/-! ## The cursor -/

/-- The end of the second of two lines is the end of the text. -/
lemma takeBytes_byteOffset_end {first second : List Char} (hfirst : '\n' ∉ first)
    (hsecond : ∀ c ∈ second, c ≠ '\n' ∧ c ≠ '\r') (hne : second ≠ []) :
    takeBytes (Position.byteOffset (first ++ '\n' :: second) ⟨1, unitLength second⟩)
      (first ++ '\n' :: second) = first ++ '\n' :: second := by
  have hpieces : pieces (first ++ '\n' :: second) = [first ++ ['\n'], second] := by
    rw [pieces_line hfirst, pieces_unended (fun h => (hsecond _ h).1 rfl) hne]
  have hcontent : withoutBreaks second = second := by
    have hbody := withoutBreaks_body (show [] ∈ terminators by simp [terminators]) hsecond
    rwa [List.append_nil] at hbody
  have hcolumn : columnBytes (unitLength second) second = byteLength second := by
    rw [columnBytes_eq, columnChars_unitLength, List.take_length]
  have hoffset : Position.byteOffset (first ++ '\n' :: second) ⟨1, unitLength second⟩ =
      byteLength (first ++ '\n' :: second) := by
    rw [Position.byteOffset_eq, hpieces]
    simp [hcontent, hcolumn, Nat.add_assoc]
  have hwhole := takeBytes_byteLength_append (first ++ '\n' :: second) []
  rwa [List.append_nil, ← hoffset] at hwhole

lemma callLine_ne_nil (row : FunctionRow) (alternate : String) (arguments : List String) :
    (callLine row alternate arguments).toList ≠ [] := by
  rw [toList_callLine]
  simp

lemma isLookupPart_of_mem_function (hrow : row.Plain)
    (halternate : isName isNamePart alternate.toList = true) :
    ∀ c ∈ (alternate ++ "." ++ row.name).toList, isLookupPart c = true := by
  have hname : ∀ {name : List Char}, isName isNamePart name = true →
      ∀ c ∈ name, isLookupPart c = true := by
    intro name hname c hc
    rw [isLookupPart, isNamePart_of_mem hname hc]
    rfl
  have hfunction : (alternate ++ "." ++ row.name).toList =
      alternate.toList ++ '.' :: row.name.toList := by simp
  rw [hfunction]
  simp only [List.forall_mem_append, List.forall_mem_cons]
  exact ⟨hname halternate, by decide, hname hrow.name⟩

lemma locate?_document (hrow : row.Plain) (halternate : isName isNamePart alternate.toList = true)
    (hne : arguments ≠ []) (harguments : ∀ argument ∈ arguments, IsArgument argument.toList) :
    let text := document row alternate arguments
    CallSite.locate? text
        (Position.byteOffset text.toList
          ⟨1, unitLength (callLine row alternate arguments).toList⟩) =
      some ⟨alternate ++ "." ++ row.name, arguments.length - 1⟩ := by
  intro text
  have hfirst := ordinary_importLine hrow halternate
  have hsecond := ordinary_callLine hrow halternate harguments
  have hbreaks : ∀ c ∈ (callLine row alternate arguments).toList, c ≠ '\n' ∧ c ≠ '\r' := by
    intro c hc
    constructor
    · rintro rfl
      exact notMem_of_ordinary hsecond (by decide) hc
    · rintro rfl
      exact notMem_of_ordinary hsecond (by decide) hc
  have hclosed : ∀ argument ∈ arguments.map String.toList, CallSite.isClosed argument = true := by
    rintro _ hmem
    obtain ⟨argument, hargument, rfl⟩ := List.mem_map.mp hmem
    exact (harguments argument hargument).isClosed
  have hplain : ∀ c, c ≠ '\n' → isOrdinary c = false → c ∉ text.toList := by
    intro c hfeed hc
    rw [toList_document, List.mem_append, List.mem_cons, not_or, not_or]
    exact ⟨notMem_of_ordinary hfirst hc, hfeed, notMem_of_ordinary hsecond hc⟩
  have hsplit : text.toList = (importLine row alternate).toList ++ ['\n'] ++
      (alternate ++ "." ++ row.name).toList ++
        '(' :: joinWith [','] (arguments.map String.toList) := by
    rw [toList_document, toList_callLine]
    simp
  have hscrub :=
    scrub_plain (hplain '"' (by decide) (by decide)) (hplain '/' (by decide) (by decide))
  have hcut := takeBytes_byteOffset_end (notMem_of_ordinary hfirst (by decide)) hbreaks
    (callLine_ne_nil row alternate arguments)
  rw [← toList_document] at hcut
  rw [hsplit] at hscrub
  rw [CallSite.locate?, hcut, hsplit,
    CallSite.atEnd?_of_scrub (by simp) (isLookupPart_of_mem_function hrow halternate)
      (by simp; decide)
      (by simpa using hne) hclosed hscrub, String.ofList_toList, List.length_map]

/-! ## The table -/

/-- The second line holds no import: names have no blanks, and arguments do not hold the keyword. -/
lemma onLine_callLine (hrow : row.Plain) (halternate : isName isNamePart alternate.toList = true)
    (harguments : ∀ argument ∈ arguments, IsArgument argument.toList) (number : Nat) :
    Import.onLine number (callLine row alternate arguments).toList = [] := by
  by_contra hfound
  have hbegins := Import.begins_of_onLine_ne_nil hfound
  rw [toList_callLine] at hbegins
  rcases hbegins.of_append (by decide) (by decide) with hlead | hbegins
  · rw [hlead.not_isName] at halternate
    cases halternate
  rcases hbegins.of_append (by decide) (by decide) with hname | hbegins
  · have hplain := hrow.name
    rw [hname.not_isName] at hplain
    cases hplain
  obtain ⟨_, hmem, hbegins⟩ := hbegins.of_joinWith (by decide) (by decide)
  obtain ⟨argument, hargument, rfl⟩ := List.mem_map.mp hmem
  have hkeyword := (harguments argument hargument).keyword
  rw [hbegins.holdsWord] at hkeyword
  cases hkeyword

lemma scan_document (hrow : row.Plain) (halternate : isName isNamePart alternate.toList = true)
    (harguments : ∀ argument ∈ arguments, IsArgument argument.toList) :
    Import.scan (document row alternate arguments) = [.ofLibrary row.module alternate 0] := by
  have hfirst := ordinary_importLine hrow halternate
  have hsecond := ordinary_callLine hrow halternate harguments
  have hreturn : (importLine row alternate).toList.getLast? ≠ some '\r' := fun h =>
    notMem_of_ordinary hfirst (by decide) (List.mem_of_getLast? h)
  have hlines : lines (document row alternate arguments).toList =
      [(importLine row alternate).toList, (callLine row alternate arguments).toList] := by
    rw [toList_document, lines_feed (notMem_of_ordinary hfirst (by decide)) hreturn,
      lines_unended (notMem_of_ordinary hsecond (by decide))
        (callLine_ne_nil row alternate arguments)]
  have hplain : ∀ {line : List Char}, line.all isOrdinary = true → scrubLine line = line :=
    fun h => scrubLine_plain (notMem_of_ordinary h (by decide)) (notMem_of_ordinary h (by decide))
  have himport : Import.onLine 0 (importLine row alternate).toList =
      [.ofLibrary row.module alternate 0] := by
    rw [toList_importLine,
      Import.onLine_written (by decide) (by simpa using hrow.module) halternate]
    simp [Import.ofLibrary, joinWith, ← String.toList_inj]
  rw [Import.scan, hlines]
  simp only [List.zipIdx_cons, List.zipIdx_nil, List.map_cons, List.map_nil, List.flatten_cons,
    List.flatten_nil, List.append_nil, hplain hfirst, hplain hsecond, himport,
    onLine_callLine hrow halternate harguments]

variable {functions : List FunctionRow} {constants : List ConstantRow}
  {attributes : List Attribute} {snapshot : Snapshot}

lemma get?_table (hlibrary : Library.ofTables functions constants attributes = .ok snapshot.library)
    (hplain : ∀ row ∈ functions, row.Plain) (hrow : row ∈ functions)
    (halternate : isName isNamePart alternate.toList = true)
    (harguments : ∀ argument ∈ arguments, IsArgument argument.toList)
    (htext : snapshot.text = document row alternate arguments) :
    snapshot.table.get? (alternate ++ "." ++ row.name) =
      some (.ofLibrary row.function (Import.aliasedLabel row alternate) .libraryImport) := by
  have himports : snapshot.imports =
      [(Import.ofLibrary row.module alternate 0).resolve snapshot.sources snapshot.directory] := by
    rw [Snapshot.imports, htext, scan_document (hplain row hrow) halternate harguments,
      List.map_singleton]
  have hdocument : SymbolTable.lastIn? (alternate ++ "." ++ row.name)
      (SymbolTable.documentLayer (Symbol.scan snapshot.text none .current)) = none := by
    rw [SymbolTable.lastIn?_documentLayer, Option.map_eq_none_iff, List.findRev?_eq_find?_reverse,
      List.find?_eq_none]
    intro symbol hsymbol
    simpa using Symbol.qualifiedName_ne_dotted (List.mem_reverse.mp hsymbol) alternate row.name
  rw [Snapshot.table, SymbolTable.get?_merge, hdocument, himports, Option.none_or,
    List.findSomeRev?, List.findSomeRev?, Import.contribution?_alias hlibrary hplain hrow]
  rfl

/-- Signature help at the end of the document, for any tables whose names are plain. -/
lemma signature?_document
    (hlibrary : Library.ofTables functions constants attributes = .ok snapshot.library)
    (hplain : ∀ row ∈ functions, row.Plain) (hrow : row ∈ functions)
    (halternate : isName isNamePart alternate.toList = true) (hne : arguments ≠ [])
    (harguments : ∀ argument ∈ arguments, IsArgument argument.toList)
    (htext : snapshot.text = document row alternate arguments) :
    signature? snapshot ⟨1, unitLength (callLine row alternate arguments).toList⟩ = some
      { label := Import.aliasedLabel row alternate
        documentation := row.documentation
        parameters := row.function.parameters
        active := min (arguments.length - 1) (row.parameters.length - 1) } := by
  have hsite := locate?_document (hplain row hrow) halternate hne harguments
  have hentry := get?_table hlibrary hplain hrow halternate harguments htext
  have hfunction : alternate ++ "." ++ row.name ≠ "" := by
    rw [ne_eq, ← String.toList_inj]
    simp
  have hlength : row.function.parameters.length = row.parameters.length := by
    simp [FunctionRow.function]
  rw [signature?, htext, hsite, Option.bind_some, signatureAt?, if_neg hfunction,
    SymbolTable.lookup, hentry, Option.map_some, SymbolEntry.ofLibrary, CallSite.activeParameter,
    hlength]
  rfl

/-- **Signature help for a function of the library behind an alias.**  At the end of a document that
imports a module of the built-in library under an alias and calls a function of it with some
arguments, the function is shown behind the alias with its own parameters.  The parameter of the
last argument is marked, and the last parameter when there are more arguments. -/
theorem signature_of_aliased_call {row : FunctionRow} (hrow : row ∈ Library.functionRows)
    {alternate : String} (halternate : isName isNamePart alternate.toList = true)
    {arguments : List String} (hne : arguments ≠ [])
    (harguments : ∀ argument ∈ arguments, IsArgument argument.toList) {snapshot : Snapshot}
    (hlibrary : snapshot.library = Library.builtin)
    (htext : snapshot.text = importLine row alternate ++ "\n" ++ callLine row alternate arguments) :
    signature? snapshot ⟨1, unitLength (callLine row alternate arguments).toList⟩ = some
      { label := alternate ++ "." ++ row.name ++ "(" ++ ", ".intercalate row.parameters ++ ")"
        documentation := row.documentation
        parameters := row.function.parameters
        active :=
          if row.parameters = [] then 0
          else min (arguments.length - 1) (row.parameters.length - 1) } := by
  have htables : Library.ofTables Library.functionRows Library.constantRows Library.attributeRows =
      .ok snapshot.library := by
    rw [hlibrary, Library.ofTables_builtin]
  have hactive : (if row.parameters = [] then 0
      else min (arguments.length - 1) (row.parameters.length - 1)) =
      min (arguments.length - 1) (row.parameters.length - 1) := by
    split
    · rename_i hnil
      simp [hnil]
    · rfl
  rw [hactive]
  exact signature?_document htables (fun _ => Library.plain_of_mem_functionRows) hrow halternate hne
    harguments htext

/-- An alias that is the name of another module, an argument that declares a function of that name,
nested calls, characters of several bytes and of two units, and more arguments than parameters. -/
theorem signature_of_aliased_call_nested :
    let row : FunctionRow :=
      { module := "bytes", name := "write_u16", parameters := ["buf", "offset", "value"],
        returns := none, documentation := "Writes 16-bit unsigned int (little-endian)." }
    let arguments := ["fn io(x)", " max(1, (2))", "é😀 needs_", "4"]
    let snapshot : Snapshot :=
      { address := ⟨"untitled", none, .plain "draft", none, none⟩
        text := "needs std.bytes as io\nio.write_u16(fn io(x), max(1, (2)),é😀 needs_,4"
        path := none
        library := .builtin
        sources := ⟨.empty, []⟩ }
    row ∈ Library.functionRows ∧ isName isNamePart "io".toList = true ∧ arguments ≠ [] ∧
      (∀ argument ∈ arguments, IsArgument argument.toList) ∧
      signature? snapshot ⟨1, 47⟩ =
        some ⟨"io.write_u16(buf, offset, value)", row.documentation,
          row.function.parameters, 2⟩ := by
  intro row arguments snapshot
  have hrow : row ∈ Library.functionRows := by decide +kernel
  have hname : isName isNamePart "io".toList = true := by decide +kernel
  have hne : arguments ≠ [] := by decide
  have harguments : ∀ argument ∈ arguments, IsArgument argument.toList := by decide +kernel
  have htext : snapshot.text = importLine row "io" ++ "\n" ++ callLine row "io" arguments := by
    decide +kernel
  have hcolumn : unitLength (callLine row "io" arguments).toList = 47 := by decide +kernel
  have hsignature := signature_of_aliased_call hrow hname hne harguments rfl htext
  rw [hcolumn] at hsignature
  exact ⟨hrow, hname, hne, harguments, hsignature.trans (by decide +kernel)⟩

end Query

end LanguageServer
