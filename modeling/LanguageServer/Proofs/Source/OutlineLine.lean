import LanguageServer.Proofs.Source.Brace
import LanguageServer.Proofs.Source.FunctionHead
import LanguageServer.Proofs.Source.FunctionLine
import LanguageServer.Proofs.Source.Outline

/-!
# What the lines of a script do to its outline

One line after the other is taken into the outline (`Builder.run`).  While no attribute waits for a
function, a line does one of four things: the head of a function opens it
(`Builder.step_head`), an assignment to a new variable adds a node (`Builder.step_assignment`), a
closing brace ends a block (`Builder.step_brace`), and a line that declares nothing and whose braces
are all paired changes nothing (`Builder.step_idle`).
-/

namespace LanguageServer

open Text Source LanguageServer.Symbol

/-! ## Functions on a line -/

namespace FunctionLine

/-- The parameter list of a head, with its parentheses. -/
def writtenList (h : WrittenHead) : List Char :=
  '(' :: (h.list ++ [')'])

lemma head?_name (h : WrittenHead) :
    head? (functionKeyword ++ ' ' :: h.name ++ h.rest) =
      some (⟨h.name, byteLength (functionKeyword ++ ' ' :: h.name), writtenList h⟩,
        [' ', '{']) := by
  have hbody : strip? ['('] h.rest = some (h.list ++ [')', ' ', '{']) := rfl
  have hline : (h.list ++ [')', ' ', '{']).takeWhile (· != '\n') = h.list ++ [')', ' ', '{'] := by
    refine List.takeWhile_eq_self_iff.mpr fun c hc => ?_
    have hmem : c ∈ h.line := by
      rw [h.line_eq, WrittenHead.rest]
      simp only [List.mem_append, List.mem_cons] at hc ⊢
      exact Or.inr (Or.inr (Or.inr hc))
    rw [bne_iff_ne]
    rintro rfl
    exact notMem_of_all_isWordOr h.all_line (by decide) hmem
  have hinner : throughLast? ')' (h.list ++ [')', ' ', '{']) = some (h.list ++ [')']) :=
    throughLast?_append (by decide) h.list
  have hdrop : (h.list ++ [')', ' ', '{']).drop (h.list ++ [')']).length = [' ', '{'] := by
    rw [show h.list ++ [')', ' ', '{'] = (h.list ++ [')']) ++ [' ', '{'] by simp, List.drop_left]
  have hbytes : byteLength (functionKeyword ++ ' ' :: h.name ++ h.rest) - byteLength h.rest =
      byteLength (functionKeyword ++ ' ' :: h.name) := by
    rw [byteLength_append, Nat.add_sub_cancel]
  have hskip : skipBlanks h.rest = h.rest := rfl
  simp only [head?, h.named?_name, Option.bind_eq_bind, Option.bind_some, hbody, hline, hinner,
    hdrop, hskip, hbytes, writtenList]

lemma find?_line (h : WrittenHead) :
    find? (String.ofList h.line) = some ⟨String.ofList h.name, String.ofList (writtenList h)⟩ := by
  have hlead : findAllFrom wordStart head? [] 0
      (h.lead ++ (functionKeyword ++ ' ' :: h.name ++ h.rest)) =
      findAllFrom wordStart head? (h.lead.reverse ++ []) 0
        (functionKeyword ++ ' ' :: h.name ++ h.rest) := by
    refine findAllFrom_passage fun tail htail hne => ?_
    rw [head?, h.named?_lead htail hne]
    rfl
  have hitem : functionKeyword ++ ' ' :: h.name ++ h.rest =
      (functionKeyword ++ ' ' :: h.name ++ writtenList h) ++ [' ', '{'] := by
    simp [WrittenHead.rest, writtenList]
  have hread := head?_name h
  rw [hitem] at hread
  have hslice : sliceBytes (byteLength (h.lead ++ (functionKeyword ++ ' ' :: h.name)))
      (byteLength (h.lead ++ (functionKeyword ++ ' ' :: h.name)) + byteLength (writtenList h))
      h.line = writtenList h := by
    have hline : h.line = (h.lead ++ (functionKeyword ++ ' ' :: h.name)) ++
        (writtenList h ++ [' ', '{']) := by
      rw [h.line_eq, hitem]
      simp
    rw [sliceBytes, Nat.add_sub_cancel_left, hline, dropBytes_byteLength_append,
      takeBytes_byteLength_append]
  have hstart : byteLength (h.lead.reverse ++ []).reverse +
      byteLength (functionKeyword ++ ' ' :: h.name) =
      byteLength (h.lead ++ (functionKeyword ++ ' ' :: h.name)) := by
    rw [List.append_nil, List.reverse_reverse, ← byteLength_append]
  have hne : functionKeyword ++ ' ' :: h.name ++ writtenList h ≠ [] := by simp
  rw [find?, String.toList_ofList, h.scrubLine_line, findAll, h.line_eq, hlead, hitem,
    findAllFrom_item hne h.wordStart_lead hread, List.head?_cons, Option.map_some, ← hitem,
    ← h.line_eq]
  simp only [hstart, hslice]

lemma find?_of_notIn {line : List Char} (h : ¬ functionKeyword <:+: scrubLine line) :
    find? (String.ofList line) = none := by
  have hnone : findAll wordStart head? (scrubLine line) = [] := by
    refine findAll_eq_nil_of_strip? (fun input hinput => ?_) h
    rw [head?, named?, ← functionKeyword, hinput]
    rfl
  rw [find?, String.toList_ofList, hnone]
  rfl

end FunctionLine

/-! ## Variables on a line -/

namespace VariableLine

/-- The keyword of a variable. -/
def variableKeyword : List Char := ['l', 'e', 't']

/-- The keyword of a variable that can be assigned to again. -/
def mutableKeyword : List Char := ['m', 'u', 't']

lemma find?_of_notIn {line : List Char} (hlet : ¬ variableKeyword <:+: scrubLine line)
    (hmut : ¬ mutableKeyword <:+: scrubLine line) : find? (String.ofList line) = none := by
  have hnone : findAll wordStart read? (scrubLine line) = [] := by
    refine List.eq_nil_iff_forall_not_mem.mpr fun found hfound => ?_
    obtain ⟨input, rest, hline, -, hread⟩ := read_of_mem_findAll hfound
    have hinput : input <:+: scrubLine line := ⟨found.before, [], by simp [hline]⟩
    rw [read?] at hread
    split at hread
    · rename_i after hstrip
      refine hlet (List.IsInfix.trans ⟨[], after, ?_⟩ hinput)
      exact (strip?_eq_some_iff.mp hstrip).symm
    · obtain ⟨_, hkeyword, -⟩ := Option.bind_eq_some_iff.mp hread
      obtain ⟨after, hstrip, -⟩ := Option.map_eq_some_iff.mp hkeyword
      refine hmut (List.IsInfix.trans ⟨[], after, ?_⟩ hinput)
      exact (strip?_eq_some_iff.mp hstrip).symm
  rw [find?, String.toList_ofList, hnone]
  rfl

/-- A new variable that is assigned a value. -/
structure Assignment where
  /-- The number of spaces before the keyword. -/
  indent : Nat
  isMutable : Bool
  name : List Char
  value : List Char
  isName_name : isName isWord name = true
  quote_notMem_value : '"' ∉ value
  slash_notMem_value : '/' ∉ value

namespace Assignment

variable (a : Assignment)

/-- What stands between the keyword and the name. -/
def gap : List Char :=
  if a.isMutable then ' ' :: (mutableKeyword ++ [' ']) else [' ']

/-- What follows the name. -/
def rest : List Char :=
  [' ', '=', ' '] ++ a.value

/-- The declaration. -/
def text : List Char :=
  variableKeyword ++ (a.gap ++ (a.name ++ a.rest))

/-- The line of the variable. -/
def line : List Char :=
  List.replicate a.indent ' ' ++ a.text

lemma scrubLine_line : scrubLine a.line = a.line := by
  have hgap : '"' ∉ a.gap ∧ '/' ∉ a.gap := by
    rw [gap]
    split <;> decide
  have hname : '"' ∉ a.name ∧ '/' ∉ a.name :=
    ⟨notMem_of_isName a.isName_name (by decide) (by decide),
      notMem_of_isName a.isName_name (by decide) (by decide)⟩
  have hvalue := And.intro a.quote_notMem_value a.slash_notMem_value
  refine scrubLine_plain ?_ ?_
  · simp [line, text, rest, variableKeyword, hgap.1, hname.1, hvalue.1]
  · simp [line, text, rest, variableKeyword, hgap.2, hname.2, hvalue.2]

lemma name?_rest : name? isWord (a.name ++ a.rest) = some (a.name, a.rest) :=
  name?_append a.isName_name fun c hc => by
    obtain rfl : ' ' = c := by simpa [rest] using hc
    decide

/-- The keyword for a variable that can be assigned to again is not read where a name stands, even
when it is the name. -/
lemma mutableName?_name : mutableName? (a.name ++ a.rest) = none := by
  rw [Option.eq_none_iff_forall_ne_some]
  rintro ⟨other, after⟩ hread
  simp only [mutableName?, Option.bind_eq_bind, Option.bind_eq_some_iff] at hread
  obtain ⟨afterKeyword, hkeyword, afterGap, hgap, hname⟩ := hread
  obtain ⟨blank, more, rfl, hblank⟩ := blank_of_skipBlanks1? hgap
  -- Then the name is the keyword, and what follows is no second name.
  have hmut :
      name? isWord (mutableKeyword ++ blank :: more) = some (mutableKeyword, blank :: more) :=
    name?_append (by decide) fun c hc => by
      obtain rfl : blank = c := by simpa using hc
      exact isWord_of_isBlank hblank
  have hsame := a.name?_rest
  rw [strip?_eq_some_iff.mp hkeyword] at hsame
  rw [show ['m', 'u', 't'] = mutableKeyword from rfl, hmut, Option.some.injEq,
    Prod.mk.injEq] at hsame
  rw [hsame.2] at hgap
  obtain rfl : '=' :: ' ' :: a.value = afterGap := Option.some.inj hgap
  cases hname

lemma target?_gap : ((skipBlanks1? (a.gap ++ (a.name ++ a.rest))).bind target?) =
    some ((a.isMutable, a.name), a.rest) := by
  cases hmutable : a.isMutable with
  | true =>
    have hgap : skipBlanks1? (a.gap ++ (a.name ++ a.rest)) =
        some (mutableKeyword ++ ' ' :: (a.name ++ a.rest)) := by
      rw [gap, if_pos hmutable]
      rfl
    have hkeyword : strip? ['m', 'u', 't'] (mutableKeyword ++ ' ' :: (a.name ++ a.rest)) =
        some (' ' :: (a.name ++ a.rest)) := strip?_eq_some_iff.mpr rfl
    have hread : mutableName? (mutableKeyword ++ ' ' :: (a.name ++ a.rest)) =
        some (a.name, a.rest) := by
      simp only [mutableName?, Option.bind_eq_bind, hkeyword, Option.bind_some,
        skipBlanks1?_name a.isName_name, a.name?_rest]
    rw [hgap, Option.bind_some, target?, hread]
  | false =>
    have hgap : skipBlanks1? (a.gap ++ (a.name ++ a.rest)) = some (a.name ++ a.rest) := by
      rw [gap, if_neg (by simp [hmutable])]
      exact skipBlanks1?_name a.isName_name a.rest
    rw [hgap, Option.bind_some, target?, a.mutableName?_name, a.name?_rest]
    rfl

lemma read?_text :
    read? a.text = some (⟨String.ofList a.name, none, a.isMutable⟩, a.rest) := by
  have hkeyword : strip? ['l', 'e', 't'] a.text = some (a.gap ++ (a.name ++ a.rest)) :=
    strip?_eq_some_iff.mpr rfl
  obtain ⟨after, hgap, htarget⟩ := Option.bind_eq_some_iff.mp a.target?_gap
  have htype : type? a.rest = none := rfl
  simp only [read?, hkeyword, Option.bind_eq_bind, Option.bind_some, hgap, htarget, htype,
    Bool.false_or]

lemma find?_line :
    find? (String.ofList a.line) = some ⟨String.ofList a.name, none, a.isMutable⟩ := by
  have hindent : findAllFrom wordStart read? [] 0 (List.replicate a.indent ' ' ++ a.text) =
      findAllFrom wordStart read? ((List.replicate a.indent ' ').reverse ++ []) 0 a.text := by
    refine findAllFrom_passage fun tail htail hne => ?_
    obtain ⟨c, tail, rfl⟩ := List.exists_cons_of_ne_nil hne
    have hc : c = ' ' := List.eq_of_mem_replicate (htail.subset List.mem_cons_self)
    subst hc
    rfl
  have hstart : wordStart ((List.replicate a.indent ' ').reverse ++ []).head? = true := by
    rw [List.append_nil, List.head?_reverse]
    exact wordStart_of_isBlankText (isBlankText_spaces a.indent)
  have hitem : a.text = (variableKeyword ++ (a.gap ++ a.name)) ++ a.rest := by
    simp [text]
  have hread := a.read?_text
  rw [hitem] at hread
  have hne : variableKeyword ++ (a.gap ++ a.name) ≠ [] := List.cons_ne_nil _ _
  rw [find?, String.toList_ofList, scrubLine_line, line, findAll, hindent, hitem,
    findAllFrom_item hne hstart hread]
  rfl

end Assignment

end VariableLine

/-! ## Steps of the outline -/

namespace Outline.Builder

open VariableLine

variable {b : Builder} {number : Nat} {line : List Char}

lemma attributeOn_of_notMem {scrubbed : List Char} (h : '@' ∉ scrubbed) :
    attributeOn scrubbed = none := by
  have hword : ¬ ['@'] <:+: scrubbed := fun hin => h (hin.subset List.mem_cons_self)
  have hnone : findAll (fun _ => true) attribute? scrubbed = [] := by
    refine findAll_eq_nil_of_strip? (fun input hinput => ?_) hword
    unfold attribute?
    split
    · cases hinput
    · rfl
  rw [attributeOn, hnone]
  rfl

/-- While no attribute waits and none is on the line, the line makes its declaration and then its
braces without a partner are applied. -/
lemma step_of_unmarked (hmark : b.mark = none) (hattribute : '@' ∉ scrubLine line)
    {closing opening : Nat} (hbraces : unpaired (scrubLine line) = ⟨closing, opening⟩) :
    b.step number line =
      let closed := (b.declareOn number line).closeBraces number closing
      { closed with depth := closed.depth + opening, mark := none } := by
  have hopening : (dropBlocks (scrubLine line)).count '{' = opening := by
    rw [(count_dropBlocks _).2, hbraces]
  have hclosing : (dropBlocks (scrubLine line)).count '}' = closing := by
    rw [(count_dropBlocks _).1, hbraces]
  have hwaiting : (attributeOn (scrubLine line)).or b.mark = none := by
    rw [attributeOn_of_notMem hattribute, hmark]
    rfl
  have hnone : (b.step number line).mark = none := by
    show (if _ then none else if _ then none else (attributeOn (scrubLine line)).or b.mark) = none
    rw [hwaiting, ite_self, ite_self]
  obtain ⟨mark, hstep⟩ := step_eq b number line
  have hsame : mark = none := by
    rw [← hnone, hstep]
  rw [hstep, hsame]
  simp only [hopening, hclosing]

/-- On such a line the declaration is that of its entry. -/
lemma declareOn_of_unmarked (hmark : b.mark = none) (hattribute : '@' ∉ scrubLine line)
    {entry : Entry} (hentry : entryOn none (String.ofList line) = some entry) :
    b.declareOn number line =
      b.declare number
        ((scrubLine line).contains '{' && (dropBlocks (scrubLine line)).count '{' == 0) entry := by
  rw [declareOn, attributeOn_of_notMem hattribute, hmark, Option.none_or]
  simp only [hentry]

/-- A line that declares nothing and whose braces are paired. -/
structure Idle (line : List Char) : Prop where
  attribute_notMem : '@' ∉ scrubLine line
  function_notIn : ¬ functionKeyword <:+: scrubLine line
  variable_notIn : ¬ variableKeyword <:+: scrubLine line
  mutable_notIn : ¬ mutableKeyword <:+: scrubLine line
  unpaired_eq : unpaired (scrubLine line) = ⟨0, 0⟩

lemma idle_of_isBlankText (h : isBlankText (scrubLine line) = true) : Idle line := by
  have hnotMem : ∀ c, isBlank c = false → c ∉ scrubLine line := by
    intro c hc hmem
    rw [List.all_eq_true.mp h c hmem] at hc
    cases hc
  have hnotIn : ∀ c rest, isBlank c = false → ¬ c :: rest <:+: scrubLine line :=
    fun c rest hc hin =>
    hnotMem c hc (hin.subset List.mem_cons_self)
  exact ⟨hnotMem '@' (by decide), hnotIn 'f' ['n'] (by decide), hnotIn 'l' ['e', 't'] (by decide),
    hnotIn 'm' ['u', 't'] (by decide),
    unpaired_plain (hnotMem '{' (by decide)) (hnotMem '}' (by decide))⟩

lemma declareOn_of_notIn (hfunction : ¬ functionKeyword <:+: scrubLine line)
    (hlet : ¬ variableKeyword <:+: scrubLine line) (hmut : ¬ mutableKeyword <:+: scrubLine line) :
    b.declareOn number line = b := by
  have hentry : ∀ mark, entryOn mark (String.ofList line) = none := by
    intro mark
    rw [entryOn, FunctionLine.find?_of_notIn hfunction, VariableLine.find?_of_notIn hlet hmut]
    rfl
  rw [declareOn]
  simp only [hentry]

lemma same_depth (hmark : b.mark = none) :
    { b with depth := b.depth + ((0 : Nat) : Int), mark := none } = b := by
  obtain ⟨roots, opened, depth, mark⟩ := b
  simp only at hmark
  simp [hmark]

/-- An idle line changes nothing. -/
lemma step_idle (hmark : b.mark = none) (h : Idle line) : b.step number line = b := by
  rw [step_of_unmarked hmark h.attribute_notMem h.unpaired_eq,
    declareOn_of_notIn h.function_notIn h.variable_notIn h.mutable_notIn]
  exact same_depth hmark

lemma mark_closeBrace (line : Nat) : (b.closeBrace line).mark = b.mark := by
  obtain ⟨roots, opened, depth, mark⟩ := b
  cases opened with
  | nil => rfl
  | cons o os =>
    simp only [closeBrace]
    split
    · rw [finish, mark_attach]
    · rfl

/-- A closing brace on a line of its own is applied. -/
lemma step_brace (hmark : b.mark = none) : b.step number ['}'] = b.closeBrace number := by
  have hbraces : unpaired (scrubLine ['}']) = ⟨1, 0⟩ := by decide
  rw [step_of_unmarked hmark (by decide) hbraces,
    declareOn_of_notIn (by decide) (by decide) (by decide)]
  exact same_depth ((mark_closeBrace number).trans hmark)

/-- The head of a function opens it, one deeper than before. -/
lemma step_head (hmark : b.mark = none) (h : WrittenHead) :
    b.step number h.line =
      { b with
        opened := ⟨⟨String.ofList h.name, .function,
          functionDetail none (String.ofList (FunctionLine.writtenList h))⟩, number, b.depth, []⟩ ::
            b.opened
        depth := b.depth + 1 } := by
  have hattribute : '@' ∉ scrubLine h.line := by
    rw [h.scrubLine_line]
    exact notMem_of_all_isWordOr h.all_line (by decide)
  have hbraces : unpaired (scrubLine h.line) = ⟨0, 1⟩ := by
    rw [h.scrubLine_line, WrittenHead.line,
      unpaired_plain_append (notMem_of_all_isWordOr h.all_text (by decide))
        (notMem_of_all_isWordOr h.all_text (by decide))]
    decide
  have hentry : entryOn none (String.ofList h.line) = some ⟨String.ofList h.name, .function,
      functionDetail none (String.ofList (FunctionLine.writtenList h))⟩ := by
    rw [entryOn, FunctionLine.find?_line]
  have hopening : (dropBlocks (scrubLine h.line)).count '{' = 1 := by
    rw [(count_dropBlocks _).2, hbraces]
  rw [step_of_unmarked hmark hattribute hbraces, declareOn_of_unmarked hmark hattribute hentry,
    hopening, declare, if_pos ⟨rfl, by simp⟩]
  obtain ⟨roots, opened, depth, mark⟩ := b
  simp only at hmark
  simp [closeBraces, hmark]

/-- The node of a new variable. -/
def assignmentNode (a : Assignment) (number : Nat) : OutlineNode where
  name := String.ofList a.name
  kind := if isConstant ⟨String.ofList a.name, none, a.isMutable⟩ then .constant else .binding
  detail := ""
  start := number
  stop := number
  children := []

lemma step_assignment (hmark : b.mark = none) (a : Assignment) (hattribute : '@' ∉ a.line)
    (hfunction : ¬ functionKeyword <:+: a.line) (hopen : '{' ∉ a.line) (hclose : '}' ∉ a.line) :
    b.step number a.line = b.attach (assignmentNode a number) := by
  rw [← a.scrubLine_line] at hattribute hfunction
  have hbraces : unpaired (scrubLine a.line) = ⟨0, 0⟩ := by
    rw [a.scrubLine_line]
    exact unpaired_plain hopen hclose
  have hentry : entryOn none (String.ofList a.line) = some ⟨String.ofList a.name,
      if isConstant ⟨String.ofList a.name, none, a.isMutable⟩ then .constant else .binding,
      ""⟩ := by
    rw [entryOn, FunctionLine.find?_of_notIn hfunction, a.find?_line]
    rfl
  have hkind : ¬ ((if isConstant ⟨String.ofList a.name, none, a.isMutable⟩ then OutlineKind.constant
      else OutlineKind.binding) = .function ∧
        ((scrubLine a.line).contains '{' &&
          (dropBlocks (scrubLine a.line)).count '{' == 0) = false) := by
    rintro ⟨h, -⟩
    split at h <;> cases h
  rw [step_of_unmarked hmark hattribute hbraces, declareOn_of_unmarked hmark hattribute hentry,
    declare, if_neg hkind]
  exact same_depth ((mark_attach _ _).trans hmark)

/-! ## Runs of lines -/

/-- The outline between two roots, no function being open. -/
def atRest (roots : List OutlineNode) : Builder := ⟨roots, [], 0, none⟩

/-- An outline that comes to rest has the roots that it has then. -/
lemma build_of_run {text : String} {roots : List OutlineNode}
    (h : Builder.empty.run 0 (lines text.toList) = atRest roots) : build text = roots.reverse := by
  rw [run] at h
  rw [build, h]
  rfl

lemma run_idle (hmark : b.mark = none) {ls : List (List Char)} (h : ∀ line ∈ ls, Idle line)
    (number : Nat) : b.run number ls = b := by
  induction ls generalizing number with
  | nil => rfl
  | cons line rest ih =>
    rw [List.forall_mem_cons] at h
    rw [run_cons, step_idle hmark h.1, ih h.2]

end Outline.Builder

end LanguageServer
