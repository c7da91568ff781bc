import LanguageServer.Proofs.Source.Closing
import LanguageServer.Proofs.Source.Find

/-!
# The attributes that functions are shown with

While the lines of a script are taken into the outline, an attribute waits for a function.  It is
set by the first attribute of a line, over one that waits already, and it is taken by a function of
the same line or of a later one; a blank line drops it.  Whatever else a line declares leaves it
alone.

Which attribute waits on a line can therefore be said without going through the lines one by one.
It is the one of the last line that has any (`LastAttribute`), as long as it is still there: no line
from that one on declares a function, and none after it is blank (`Lasts`).  `mark_step` says what
one line does to the attribute that waits, and `waiting_eq_some_iff` what all lines have done.

A function is shown with that attribute.  No attribute is shown twice, since the first function that
it is shown with takes it (`attribute_attaches_to_function`).
-/

namespace LanguageServer.Outline

open Text Source

/-! ## Attributes on a line -/

/-- Behind `before`, an attribute stands in the text: the sign, and a name as far as it goes. -/
def AttributeAt (scrubbed before attr : List Char) : Prop :=
  ∃ name after, attr = '@' :: name ∧ scrubbed = before ++ (attr ++ after) ∧
    isName isWord name = true ∧ ∀ c ∈ after.head?, isWord c = false

/-- The attribute stands in the text, and none stands further left. -/
def FirstAttribute (scrubbed attr : List Char) : Prop :=
  ∃ before, AttributeAt scrubbed before attr ∧
    ∀ before' attr', AttributeAt scrubbed before' attr' → before.length ≤ before'.length

lemma attribute?_eq_some_iff {input attr rest : List Char} :
    attribute? input = some (attr, rest) ↔
      ∃ name, attr = '@' :: name ∧ input = attr ++ rest ∧ isName isWord name = true ∧
        ∀ c ∈ rest.head?, isWord c = false := by
  constructor
  · intro h
    cases input with
    | nil => cases h
    | cons c cs =>
      by_cases hc : c = '@'
      · subst hc
        obtain ⟨⟨name, left⟩, hname, hresult⟩ := Option.map_eq_some_iff.mp h
        cases hresult
        obtain ⟨hisName, rfl⟩ := name_of_name? hname
        exact ⟨name, rfl, rfl, hisName, stop_of_name? hname⟩
      · simp [attribute?, hc] at h
  · rintro ⟨name, rfl, rfl, hisName, hrest⟩
    rw [List.cons_append, attribute?, name?_append hisName hrest]
    rfl

/-- Where an attribute stands, one is found there or further left. -/
lemma exists_mem_head?_of_attributeAt {scrubbed before attr : List Char}
    (h : AttributeAt scrubbed before attr) :
    ∃ found ∈ (findAll (fun _ => true) attribute? scrubbed).head?,
      found.before.length ≤ before.length := by
  obtain ⟨name, after, rfl, rfl, hisName, hafter⟩ := h
  exact exists_mem_head?_findAll (List.cons_ne_nil _ _) rfl
    (attribute?_eq_some_iff.mpr ⟨name, rfl, rfl, hisName, hafter⟩)

lemma attributeAt_of_mem_head? {scrubbed : List Char} {found : Found (List Char)}
    (h : found ∈ (findAll (fun _ => true) attribute? scrubbed).head?) :
    AttributeAt scrubbed found.before found.value := by
  obtain ⟨input, rest, htext, -, hread⟩ := read_of_mem_findAll (List.mem_of_mem_head? h)
  obtain ⟨name, hvalue, rfl, hisName, hrest⟩ := attribute?_eq_some_iff.mp hread
  exact ⟨name, rest, hvalue, htext, hisName, hrest⟩

lemma AttributeAt.unique {scrubbed before before' attr attr' : List Char}
    (h : AttributeAt scrubbed before attr) (h' : AttributeAt scrubbed before' attr')
    (hlength : before.length = before'.length) : attr = attr' := by
  obtain ⟨name, after, hattribute, htext, hisName, hafter⟩ := h
  obtain ⟨name', after', hattribute', htext', hisName', hafter'⟩ := h'
  obtain ⟨rfl, hinput⟩ := List.append_inj (htext.symm.trans htext') hlength
  have hread := attribute?_eq_some_iff.mpr ⟨name, hattribute, rfl, hisName, hafter⟩
  have hread' := attribute?_eq_some_iff.mpr ⟨name', hattribute', rfl, hisName', hafter'⟩
  rw [hinput, hread', Option.some.injEq, Prod.mk.injEq] at hread
  exact hread.1.symm

lemma attributeOn_eq_none_iff {scrubbed : List Char} :
    attributeOn scrubbed = none ↔ ∀ before attr, ¬ AttributeAt scrubbed before attr := by
  rw [attributeOn, Option.map_eq_none_iff]
  constructor
  · intro hnone before attr h
    obtain ⟨found, hfound, -⟩ := exists_mem_head?_of_attributeAt h
    rw [hnone] at hfound
    cases hfound
  · intro h
    rw [Option.eq_none_iff_forall_ne_some]
    exact fun found hfound => h _ _ (attributeAt_of_mem_head? hfound)

/-- **The attribute that is found on a line is the first one.** -/
lemma attributeOn_eq_some_iff {scrubbed attr : List Char} :
    attributeOn scrubbed = some (String.ofList attr) ↔ FirstAttribute scrubbed attr := by
  rw [attributeOn, Option.map_eq_some_iff]
  constructor
  · rintro ⟨found, hfound, hvalue⟩
    rw [← String.ofList_inj.mp hvalue]
    refine ⟨found.before, attributeAt_of_mem_head? hfound, fun before' attr' h => ?_⟩
    obtain ⟨other, hother, hle⟩ := exists_mem_head?_of_attributeAt h
    rw [hfound, Option.mem_some_iff] at hother
    rwa [hother]
  · rintro ⟨before, hat, hfirst⟩
    obtain ⟨found, hfound, hle⟩ := exists_mem_head?_of_attributeAt hat
    have hfoundAt := attributeAt_of_mem_head? hfound
    have hlength := Nat.le_antisymm hle (hfirst _ _ hfoundAt)
    exact ⟨found, hfound, congrArg String.ofList (hfoundAt.unique hat hlength)⟩

/-! ## The attribute that waits -/

variable {ls : List (List Char)} {number m : Nat} {attr : List Char}

/-- Of the lines up to the given one, `m` is the last that has an attribute, and this is its first
one. -/
structure LastAttribute (ls : List (List Char)) (number m : Nat) (attr : List Char) : Prop where
  le : m ≤ number
  first : FirstAttribute (scrubLine (ls.getD m [])) attr
  last : ∀ j, m < j → j ≤ number →
    ∀ before other, ¬ AttributeAt (scrubLine (ls.getD j [])) before other

/-- What waits since line `m` is still there on the given line: no function from `m` on has taken
it, and no blank line after `m` has dropped it. -/
structure Lasts (ls : List (List Char)) (m number : Nat) : Prop where
  untaken : ∀ j, m ≤ j → j < number → FunctionLine.find? (String.ofList (ls.getD j [])) = none
  kept : ∀ j, m < j → j < number → isBlankText (ls.getD j []) = false

lemma any_function_entryOn (mark : Option String) (line : String) :
    (entryOn mark line).any (·.kind = .function) = (FunctionLine.find? line).isSome := by
  rw [entryOn]
  cases FunctionLine.find? line with
  | some f => rfl
  | none =>
    cases VariableLine.find? line with
    | none => rfl
    | some v => cases hconstant : v.isConstant <;> simp [hconstant]

/-- **What a line does to the attribute that waits.** -/
lemma mark_step (b : Builder) (number : Nat) (line : List Char) :
    (b.step number line).mark =
      if (FunctionLine.find? (String.ofList line)).isSome then none
      else if isBlankText line && (attributeOn (scrubLine line)).isNone then none
      else (attributeOn (scrubLine line)).or b.mark := by
  rw [← any_function_entryOn ((attributeOn (scrubLine line)).or b.mark)]
  rfl

lemma lastAttribute_self :
    LastAttribute ls number number attr ↔
      FirstAttribute (scrubLine (ls.getD number [])) attr :=
  ⟨LastAttribute.first,
    fun h => ⟨Nat.le_refl _, h, fun _ hlt hle => absurd hlt (Nat.not_lt.mpr hle)⟩⟩

lemma lasts_self (ls : List (List Char)) (number : Nat) : Lasts ls number number :=
  ⟨fun _ hle hlt => absurd hlt (Nat.not_lt.mpr hle),
    fun _ hlt hlt' => absurd hlt' (Nat.not_lt.mpr (Nat.le_of_lt hlt))⟩

/-- On a line without an attribute the last one is that of the line before. -/
lemma lastAttribute_succ
    (hnone : ∀ before other, ¬ AttributeAt (scrubLine (ls.getD (number + 1) [])) before other) :
    LastAttribute ls (number + 1) m attr ↔ LastAttribute ls number m attr := by
  constructor
  · intro h
    have hne : m ≠ number + 1 := by
      rintro rfl
      obtain ⟨before, hat, -⟩ := h.first
      exact hnone before attr hat
    have hle := h.le
    exact ⟨by omega, h.first, fun j hlt hj => h.last j hlt (by omega)⟩
  · intro h
    refine ⟨Nat.le_succ_of_le h.le, h.first, fun j hlt hj => ?_⟩
    rcases Nat.lt_or_eq_of_le hj with hj | rfl
    · exact h.last j hlt (by omega)
    · exact hnone

lemma LastAttribute.lt_iff (h : LastAttribute ls number m attr) :
    m < number ↔ attributeOn (scrubLine (ls.getD number [])) = none := by
  constructor
  · intro hlt
    exact attributeOn_eq_none_iff.mpr (h.last number hlt (Nat.le_refl _))
  · intro hnone
    refine Nat.lt_of_le_of_ne h.le ?_
    rintro rfl
    rw [attributeOn_eq_some_iff.mpr h.first] at hnone
    cases hnone

/-- What waits lasts through a line unless the line declares a function, or is blank and has not set
it. -/
lemma LastAttribute.lasts_succ_iff (h : LastAttribute ls number m attr) :
    Lasts ls m (number + 1) ↔
      Lasts ls m number ∧ FunctionLine.find? (String.ofList (ls.getD number [])) = none ∧
        (attributeOn (scrubLine (ls.getD number [])) = none →
          isBlankText (ls.getD number []) = false) := by
  rw [← h.lt_iff]
  constructor
  · intro hlasts
    refine ⟨⟨fun j hj hlt => ?_, fun j hj hlt => ?_⟩, ?_, fun hlt => ?_⟩
    · exact hlasts.untaken j hj (by omega)
    · exact hlasts.kept j hj (by omega)
    · exact hlasts.untaken number h.le (by omega)
    · exact hlasts.kept number hlt (by omega)
  · rintro ⟨hlasts, hnone, hblank⟩
    constructor
    · intro j hj hlt
      rcases Nat.lt_or_eq_of_le (Nat.le_of_lt_succ hlt) with hlt | rfl
      · exact hlasts.untaken j hj hlt
      · exact hnone
    · intro j hj hlt
      rcases Nat.lt_or_eq_of_le (Nat.le_of_lt_succ hlt) with hlt | rfl
      · exact hlasts.kept j hj hlt
      · exact hblank hj

variable (ls number) in
/-- The attribute that waits for a function on the given line, be it of that line or an earlier
one. -/
def waiting : Option String :=
  (attributeOn (scrubLine (ls.getD number []))).or (underWay ls number).mark

/-- What waits on a line without an attribute has waited on the line before, which did not take or
drop it. -/
lemma waiting_succ_eq_some_iff (hnumber : number < ls.length)
    (hnone : attributeOn (scrubLine (ls.getD (number + 1) [])) = none) {a : String} :
    waiting ls (number + 1) = some a ↔
      waiting ls number = some a ∧
        FunctionLine.find? (String.ofList (ls.getD number [])) = none ∧
        (attributeOn (scrubLine (ls.getD number [])) = none →
          isBlankText (ls.getD number []) = false) := by
  rw [waiting, hnone, Option.none_or, underWay_succ hnumber, mark_step, ← waiting]
  cases FunctionLine.find? (String.ofList (ls.getD number [])) with
  | some f => simp
  | none =>
    cases attributeOn (scrubLine (ls.getD number [])) with
    | some own => simp
    | none => cases isBlankText (ls.getD number []) <;> simp

/-- **Which attribute waits**: the last one, as long as it lasts.  By induction on the number of the
line; a line with an attribute starts anew. -/
lemma waiting_eq_some_iff (hnumber : number < ls.length) :
    waiting ls number = some (String.ofList attr) ↔
      ∃ m, LastAttribute ls number m attr ∧ Lasts ls m number := by
  have hself : ∀ {number}, attributeOn (scrubLine (ls.getD number [])) = some (String.ofList attr) →
      ∃ m, LastAttribute ls number m attr ∧ Lasts ls m number := fun hown =>
    ⟨_, lastAttribute_self.mpr (attributeOn_eq_some_iff.mp hown), lasts_self ls _⟩
  induction number with
  | zero =>
    have hzero : waiting ls 0 = attributeOn (scrubLine (ls.getD 0 [])) := Option.or_none
    rw [hzero]
    refine ⟨hself, ?_⟩
    rintro ⟨m, hlast, -⟩
    obtain rfl : m = 0 := Nat.le_zero.mp hlast.le
    exact attributeOn_eq_some_iff.mpr hlast.first
  | succ number ih =>
    have hbefore := ih (Nat.lt_of_succ_lt hnumber)
    cases hown : attributeOn (scrubLine (ls.getD (number + 1) [])) with
    | some own =>
      rw [waiting, hown, Option.some_or, ← hown]
      refine ⟨hself, ?_⟩
      rintro ⟨m, hlast, -⟩
      rcases Nat.lt_or_eq_of_le hlast.le with hlt | rfl
      · rw [hlast.lt_iff.mp hlt] at hown
        cases hown
      · exact attributeOn_eq_some_iff.mpr hlast.first
    | none =>
      have hnone := attributeOn_eq_none_iff.mp hown
      refine (waiting_succ_eq_some_iff (Nat.lt_of_succ_lt hnumber) hown).trans
        ⟨fun ⟨hwaiting, hpassed⟩ => ?_, fun ⟨m, hlast, hlasts⟩ => ?_⟩
      · obtain ⟨m, hlast, hlasts⟩ := hbefore.mp hwaiting
        exact ⟨m, (lastAttribute_succ hnone).mpr hlast,
          hlast.lasts_succ_iff.mpr ⟨hlasts, hpassed⟩⟩
      · have hlast := (lastAttribute_succ hnone).mp hlast
        obtain ⟨hlasts, hpassed⟩ := hlast.lasts_succ_iff.mp hlasts
        exact ⟨hbefore.mpr ⟨m, hlast, hlasts⟩, hpassed⟩

lemma waiting_eq_none_iff (hnumber : number < ls.length) :
    waiting ls number = none ↔
      ¬ ∃ m attr, LastAttribute ls number m attr ∧ Lasts ls m number := by
  rw [Option.eq_none_iff_forall_ne_some]
  constructor
  · rintro h ⟨m, attr, hwaits⟩
    exact h _ ((waiting_eq_some_iff hnumber).mpr ⟨m, hwaits⟩)
  · intro h a ha
    rw [← String.ofList_toList (s := a), waiting_eq_some_iff hnumber] at ha
    obtain ⟨m, hwaits⟩ := ha
    exact h ⟨m, _, hwaits⟩

/-! ## The attributes of functions -/

/-- The parameters of a function as the outline shows them: an empty list is not shown. -/
def shownParameters (f : FunctionLine) : List Char :=
  if f.parameters = "()" then [] else f.parameters.toList

lemma functionDetail_some (attr : List Char) (f : FunctionLine) :
    functionDetail (some (String.ofList attr)) f.parameters =
      String.ofList (trimEnd (attr ++ ' ' :: shownParameters f)) := by
  rw [functionDetail, shownParameters]
  split <;> simp

lemma functionDetail_none (f : FunctionLine) :
    functionDetail none f.parameters = String.ofList (shownParameters f) := by
  rw [functionDetail, shownParameters]
  split <;> simp

variable {text : String} {p q : Placement}

/-- A line has one node at most. -/
lemma placement_eq_of_start_eq (hp : p ∈ placements (build text))
    (hq : q ∈ placements (build text)) (hstart : p.start = q.start) : p = q := by
  have hlines := pairwise_line_headings text
  rw [← headings_build, List.map_map] at hlines
  have hnodup : ((placements (build text)).map (·.start)).Nodup := hlines.imp Nat.ne_of_lt
  exact List.inj_on_of_nodup_map hnodup hp hq hstart

lemma exists_function_of_mem_placements (hp : p ∈ placements (build text))
    (hkind : p.entry.kind = .function) :
    p.start < (lines text.toList).length ∧
      ∃ f, FunctionLine.find? (String.ofList ((lines text.toList).getD p.start [])) = some f := by
  have hheading : p.heading ∈ headings text := by
    rw [← headings_build]
    exact List.mem_map_of_mem hp
  obtain ⟨⟨line, number⟩, hline, hdeclares⟩ := List.mem_filterMap.mp hheading
  rw [List.mem_zipIdx_iff_getElem?] at hline
  simp only [headingOn] at hdeclares
  cases hfind : FunctionLine.find? (String.ofList line) with
  | some f =>
    rw [hfind, Option.some.injEq] at hdeclares
    obtain rfl : number = p.start := congrArg Heading.line hdeclares
    refine ⟨(List.getElem?_eq_some_iff.mp hline).1, f, ?_⟩
    rw [List.getD_eq_getElem?_getD, hline, Option.getD_some, hfind]
  | none =>
    rw [hfind] at hdeclares
    obtain ⟨v, -, hv⟩ := Option.map_eq_some_iff.mp hdeclares
    have hother := congrArg Heading.kind hv
    rw [show p.heading.kind = p.entry.kind from rfl, hkind] at hother
    cases hconstant : v.isConstant <;> simp [hconstant] at hother

lemma entry_of_function {f : FunctionLine} (hp : p ∈ placements (build text))
    (hlt : p.start < (lines text.toList).length)
    (hf : FunctionLine.find? (String.ofList ((lines text.toList).getD p.start [])) = some f) :
    p.entry = ⟨f.name, .function,
      functionDetail (waiting (lines text.toList) p.start) f.parameters⟩ := by
  obtain ⟨q, hq, hstart, hentry, -⟩ := exists_placement hlt (by rw [entryOn, hf])
  rw [placement_eq_of_start_eq hp hq hstart.symm, hentry, hstart]
  rfl

/-- What lasts until a line was not taken by a function before it. -/
lemma le_start_of_lasts (hp : p ∈ placements (build text)) (hkind : p.entry.kind = .function)
    (hle : m ≤ p.start) (hlasts : Lasts (lines text.toList) m number) : number ≤ p.start := by
  obtain ⟨-, f, hf⟩ := exists_function_of_mem_placements hp hkind
  refine Nat.le_of_not_lt fun hlt => ?_
  rw [hlasts.untaken p.start hle hlt] at hf
  cases hf

/-- **Attributes are shown with the functions that they are written for.**  For every text and every
function of its outline, on line `p.start`:

* if the last attribute up to this line lasts until it, the function is shown with this attribute
  and its parameters, without blanks at the end;
* otherwise it is shown with its parameters alone.

The attribute of a line is shown with one function at most. -/
theorem attribute_attaches_to_function (text : String) :
    let ls := lines text.toList
    (∀ p ∈ placements (build text), p.entry.kind = .function →
      ∃ f, FunctionLine.find? (String.ofList (ls.getD p.start [])) = some f ∧
        p.entry.name = f.name ∧
        (∀ m attr, LastAttribute ls p.start m attr → Lasts ls m p.start →
          p.entry.detail = String.ofList (trimEnd (attr ++ ' ' :: shownParameters f))) ∧
        ((¬ ∃ m attr, LastAttribute ls p.start m attr ∧ Lasts ls m p.start) →
          p.entry.detail = String.ofList (shownParameters f))) ∧
    ∀ p ∈ placements (build text), ∀ q ∈ placements (build text),
      p.entry.kind = .function → q.entry.kind = .function →
      ∀ m attr attr',
        LastAttribute ls p.start m attr → Lasts ls m p.start →
        LastAttribute ls q.start m attr' → Lasts ls m q.start → p = q := by
  intro ls
  constructor
  · intro p hp hkind
    obtain ⟨hlt, f, hf⟩ := exists_function_of_mem_placements hp hkind
    have hentry := entry_of_function hp hlt hf
    refine ⟨f, hf, by rw [hentry], fun m attr hlast hlasts => ?_, fun hnone => ?_⟩
    · rw [hentry, (waiting_eq_some_iff hlt).mpr ⟨m, hlast, hlasts⟩, functionDetail_some]
    · rw [hentry, (waiting_eq_none_iff hlt).mpr hnone, functionDetail_none]
  · intro p hp q hq hkind hkind' m attr attr' hlast hlasts hlast' hlasts'
    have hle := le_start_of_lasts hp hkind hlast.le hlasts'
    have hge := le_start_of_lasts hq hkind' hlast'.le hlasts
    exact placement_eq_of_start_eq hp hq (Nat.le_antisymm hge hle)

/-- The first of two attributes on a line waits until the function, also where a comment stands
between. -/
theorem attribute_attaches_to_function_commented :
    let text := "@a @b\n// note\nfn f(y) \x7b\x7d"
    let node : Placement := ⟨none, ⟨"f", .function, "@a (y)"⟩, 2, 2⟩
    node ∈ placements (build text) ∧
      LastAttribute (lines text.toList) 2 0 ['@', 'a'] ∧
      Lasts (lines text.toList) 0 2 ∧
      ∃ f, FunctionLine.find? (String.ofList ((lines text.toList).getD 2 [])) = some f ∧
        node.entry.detail = String.ofList (trimEnd (['@', 'a'] ++ ' ' :: shownParameters f)) := by
  intro text node
  have hmem : node ∈ placements (build text) := by decide +kernel
  have hlast : LastAttribute (lines text.toList) 2 0 ['@', 'a'] := by
    refine ⟨by decide, attributeOn_eq_some_iff.mp (by decide +kernel), fun j hlt hle => ?_⟩
    obtain rfl | rfl : j = 1 ∨ j = 2 := by omega
    · exact attributeOn_eq_none_iff.mp (by decide +kernel)
    · exact attributeOn_eq_none_iff.mp (by decide +kernel)
  have hlasts : Lasts (lines text.toList) 0 2 := by
    refine ⟨fun j _ hlt => ?_, fun j hlt hlt' => ?_⟩
    · obtain rfl | rfl : j = 0 ∨ j = 1 := by omega
      · decide +kernel
      · decide +kernel
    · obtain rfl : j = 1 := by omega
      decide +kernel
  obtain ⟨hfunctions, -⟩ := attribute_attaches_to_function text
  obtain ⟨f, hf, -, hshown, -⟩ := hfunctions node hmem rfl
  exact ⟨hmem, hlast, hlasts, f, hf, hshown 0 _ hlast hlasts⟩

/-- A comment and a variable leave the attribute alone, which a function takes and a blank line
drops. -/
example : (placements (build
    "@a @b\n// note\nlet x = 1\nfn f(y) \x7b\x7d\nfn g() \x7b\x7d\n@c\n\nfn h(z) \x7b\x7d @d")).map
      (fun p => (p.entry.name, p.entry.detail)) =
    [("x", ""), ("f", "@a (y)"), ("g", ""), ("h", "@d (z)")] := by
  decide +kernel

end LanguageServer.Outline
