import LanguageServer.Proofs.Source.ParameterList
import LanguageServer.Proofs.Source.SymbolScan
import LanguageServer.Source.Declaration

/-!
# Two readers of functions

A function is read twice.  The outline reads it on its line, up to the last closing parenthesis
(`FunctionLine.head?`); the scan for symbols reads it anywhere, perhaps behind `pub`, up to the
first one (`Symbol.head?`).  Both begin with the same signature: the keyword, the name and the
parenthesis that opens the parameters (`FunctionLine.signature?`).  On a line either reader reads
something where the other does, up to `pub`, so the first function of one is the first function of
the other (`FunctionLine.exists_first`, `FunctionLine.readers_recognise_same_function`).

The parameters that they give it differ when a parenthesis follows the list, as in a body on the
same line that calls another function.  The outline then shows the list with the beginning of the
body.  Nothing else makes them differ (`FunctionLine.parameters_eq_rawParameters_iff`).  Parentheses
in literals and comments do not count, since both readers see the scrubbed line.
-/

namespace LanguageServer

open Text Source

/-! ## Signatures -/

namespace FunctionLine

/-- Reads the keyword and the name of a function and the parenthesis that opens its parameters. -/
def signature? : Reader (List Char) := fun cs => do
  let named ← named? cs
  let body ← strip? ['('] (skipBlanks named.2)
  some (named.1, body)

variable {cs rest name body : List Char}

lemma signature?_eq_some_iff :
    signature? cs = some (name, body) ↔
      ∃ after, named? cs = some (name, after) ∧ skipBlanks after = '(' :: body := by
  simp only [signature?, Option.bind_eq_bind, Option.bind_eq_some_iff, Option.some.injEq,
    Prod.mk.injEq, strip?_eq_some_iff]
  constructor
  · rintro ⟨⟨name, after⟩, hnamed, body, hopen, rfl, rfl⟩
    exact ⟨after, hnamed, hopen⟩
  · rintro ⟨after, hnamed, hopen⟩
    exact ⟨(name, after), hnamed, body, hopen, rfl, rfl⟩

lemma exists_of_signature? (h : signature? cs = some (name, body)) :
    ∃ lead, cs = 'f' :: (lead ++ '(' :: body) := by
  obtain ⟨after, hnamed, hopen⟩ := signature?_eq_some_iff.mp h
  simp only [named?, Option.bind_eq_bind, Option.bind_eq_some_iff] at hnamed
  obtain ⟨afterKeyword, hkeyword, afterGap, hgap, hname⟩ := hnamed
  obtain ⟨gap, -, rfl⟩ := gap_of_skipBlanks1? hgap
  obtain ⟨-, rfl⟩ := name_of_name? hname
  refine ⟨'n' :: gap ++ name ++ after.takeWhile isBlank, ?_⟩
  rw [strip?_eq_some_iff.mp hkeyword, ← hopen]
  conv => lhs; rw [← blanks_append_skipBlanks after]
  simp

lemma ne_nil_of_signature? (h : signature? cs = some (name, body)) : cs ≠ [] := by
  obtain ⟨lead, rfl⟩ := exists_of_signature? h
  exact List.cons_ne_nil _ _

lemma takeWhile_body (hfeed : '\n' ∉ cs) (h : signature? cs = some (name, body)) :
    body.takeWhile (· != '\n') = body := by
  obtain ⟨lead, rfl⟩ := exists_of_signature? h
  rw [List.takeWhile_eq_self_iff]
  intro c hc
  rw [bne_iff_ne]
  rintro rfl
  exact hfeed (List.mem_cons_of_mem _ (List.mem_append_right _ (List.mem_cons_of_mem _ hc)))

/-! ## Functions on a line -/

lemma throughLast?_append {c : Char} {after : List Char} (hafter : c ∉ after) (before : List Char) :
    throughLast? c (before ++ c :: after) = some (before ++ [c]) := by
  have hpass : ∀ d ∈ after.reverse, (d != c) = true := by
    intro d hd
    rw [bne_iff_ne]
    rintro rfl
    exact hafter (List.mem_reverse.mp hd)
  have hfound : (before ++ c :: after).reverse.dropWhile (· != c) = c :: before.reverse := by
    rw [List.reverse_append, List.reverse_cons, List.append_assoc,
      List.dropWhile_append_of_pos hpass, List.singleton_append,
      List.dropWhile_cons_of_neg (by simp)]
  rw [throughLast?, hfound]
  simp

lemma exists_of_throughLast? {c : Char} {cs found : List Char}
    (h : throughLast? c cs = some found) :
    ∃ front after, found = front ++ [c] ∧ cs = front ++ c :: after ∧ c ∉ after := by
  have hcut := List.takeWhile_append_dropWhile (p := (· != c)) (l := cs.reverse)
  have hhead := List.head?_dropWhile_not (· != c) cs.reverse
  rw [throughLast?] at h
  generalize cs.reverse.dropWhile (· != c) = last at h hcut hhead
  cases last with
  | nil => cases h
  | cons d front =>
    obtain rfl : d = c := by simpa using hhead
    cases h
    refine ⟨front.reverse, (cs.reverse.takeWhile (· != d)).reverse, List.reverse_cons, ?_, ?_⟩
    · have hforward := congrArg List.reverse hcut
      rw [List.reverse_append, List.reverse_cons, List.reverse_reverse, List.append_assoc,
        List.singleton_append] at hforward
      exact hforward.symm
    · intro hmem
      have hne := List.all_eq_true.mp List.all_takeWhile d (List.mem_reverse.mp hmem)
      simp at hne

/-- The head of a function on a line is its signature and all up to the last parenthesis. -/
lemma exists_signature_of_head? {head : Head} (h : head? cs = some (head, rest)) :
    ∃ body inner after, signature? cs = some (head.name, body) ∧
      body.takeWhile (· != '\n') = inner ++ ')' :: after ∧ ')' ∉ after ∧
      head.parametersAt = byteLength cs - byteLength ('(' :: body) ∧
      head.parameters = '(' :: (inner ++ [')']) := by
  simp only [head?, Option.bind_eq_bind, Option.bind_eq_some_iff] at h
  obtain ⟨⟨name, after⟩, hnamed, body, hopen, through, hthrough, hhead⟩ := h
  cases hhead
  have hlist : skipBlanks after = '(' :: body := strip?_eq_some_iff.mp hopen
  obtain ⟨inner, tail, rfl, hline, htail⟩ := exists_of_throughLast? hthrough
  exact ⟨body, inner, tail, signature?_eq_some_iff.mpr ⟨after, hnamed, hlist⟩, hline, htail,
    by rw [hlist], rfl⟩

lemma isSome_head?_of_signature? (h : signature? cs = some (name, body))
    (hclose : ')' ∈ body.takeWhile (· != '\n')) : (head? cs).isSome = true := by
  obtain ⟨after, hnamed, hlist⟩ := signature?_eq_some_iff.mp h
  obtain ⟨tail, inner, hsplit, htail⟩ := List.eq_append_cons_of_mem (List.mem_reverse.mpr hclose)
  have hline : body.takeWhile (· != '\n') = inner.reverse ++ ')' :: tail.reverse := by
    rw [← List.reverse_reverse (body.takeWhile _), hsplit]
    simp
  have hlast : ')' ∉ tail.reverse := fun hmem => htail (List.mem_reverse.mp hmem)
  have hopen : strip? ['('] ('(' :: body) = some body := rfl
  simp only [head?, Option.bind_eq_bind, hnamed, Option.bind_some, hlist, hopen, hline,
    throughLast?_append hlast, Option.isSome_some]

/-- The parameter list of a head begins as many bytes after the keyword as the head says, with an
opening parenthesis, and ends with a closing one. -/
lemma exists_of_head? {head : Head} (h : head? cs = some (head, rest)) :
    ∃ lead inner after, cs = lead ++ '(' :: inner ++ ')' :: after ∧
      head.parametersAt = byteLength lead ∧ head.parameters = '(' :: (inner ++ [')']) := by
  obtain ⟨body, inner, after, hsignature, hline, -, hat, hparameters⟩ := exists_signature_of_head? h
  obtain ⟨lead, rfl⟩ := exists_of_signature? hsignature
  have hbody : body = inner ++ ')' :: (after ++ body.dropWhile (· != '\n')) := by
    conv => lhs; rw [← List.takeWhile_append_dropWhile (p := (· != '\n')) (l := body), hline]
    rw [List.append_assoc, List.cons_append]
  refine ⟨'f' :: lead, inner, after ++ body.dropWhile (· != '\n'), ?_, ?_, hparameters⟩
  · rw [List.append_assoc, @List.cons_append _ _ inner, ← hbody, List.cons_append]
  · rw [hat, ← List.cons_append, byteLength_append, Nat.add_sub_cancel]

end FunctionLine

/-! ## Declarations -/

namespace Symbol

open FunctionLine (signature? named? signature?_eq_some_iff exists_of_signature?)

variable {cs rest name body : List Char}

/-- What may stand before the signature of a declaration: nothing, or `pub` and a gap. -/
def IsLead (lead : List Char) : Prop :=
  lead = [] ∨ ∃ gap, lead = exportKeyword ++ gap ∧ isGap gap = true

lemma IsLead.notMem {lead : List Char} (hlead : IsLead lead) : 'f' ∉ lead := by
  rcases hlead with rfl | ⟨gap, rfl, hgap⟩
  · exact List.not_mem_nil
  · intro hmem
    rcases List.mem_append.mp hmem with hmem | hmem
    · revert hmem
      decide
    · exact absurd (isBlank_of_mem_gap hgap hmem) (by decide)

lemma IsLead.wordStart {front lead : List Char} (hfront : wordStart front.getLast? = true)
    (hlead : IsLead lead) :
    wordStart (front ++ lead).getLast? = true := by
  rcases hlead with rfl | ⟨gap, rfl, hgap⟩
  · rwa [List.append_nil]
  · rw [← List.append_assoc]
    exact wordStart_gap _ hgap

lemma signature?_of_readers {afterKeyword afterGap after list : List Char}
    (hkeyword : strip? functionKeyword cs = some afterKeyword)
    (hgap : skipBlanks1? afterKeyword = some afterGap)
    (hname : name? isWord afterGap = some (name, after))
    (hopen : strip? ['('] (skipBlanks after) = some list)
    (hclose : strip? [')'] (list.dropWhile (· != ')')) = some rest) :
    signature? cs = some (name, list.takeWhile (· != ')') ++ ')' :: rest) ∧
      ')' ∉ list.takeWhile (· != ')') := by
  have hlist : list = list.takeWhile (· != ')') ++ ')' :: rest := by
    rw [← List.singleton_append, ← strip?_eq_some_iff.mp hclose, List.takeWhile_append_dropWhile]
  constructor
  · rw [← hlist, signature?_eq_some_iff]
    refine ⟨after, ?_, strip?_eq_some_iff.mp hopen⟩
    simp only [named?, Option.bind_eq_bind, Option.bind_eq_some_iff]
    exact ⟨afterKeyword, hkeyword, afterGap, hgap, hname⟩
  · intro hmem
    have hne := List.all_eq_true.mp List.all_takeWhile _ hmem
    simp at hne

/-- The head of a declaration is a signature, perhaps behind `pub`, and all up to the first
parenthesis that closes. -/
lemma exists_signature_of_head? {head : Head} (h : head? cs = some (head, rest)) :
    ∃ lead after, cs = lead ++ after ∧
      (signature? after = some (head.name, head.parameters ++ ')' :: rest) ∧
        ')' ∉ head.parameters) ∧
      IsLead lead := by
  simp only [head?, Option.bind_eq_bind, Option.bind_eq_some_iff] at h
  split at h
  · rename_i after hafter
    obtain ⟨afterPub, hpub, hgap⟩ := Option.bind_eq_some_iff.mp hafter
    obtain ⟨gap, hisGap, rfl⟩ := gap_of_skipBlanks1? hgap
    obtain ⟨_, hkeyword, _, hgap', _, hname, _, hopen, _, hclose, hhead⟩ := h
    cases hhead
    refine ⟨exportKeyword ++ gap, after, ?_,
      signature?_of_readers hkeyword hgap' hname hopen hclose, Or.inr ⟨gap, rfl, hisGap⟩⟩
    rw [List.append_assoc]
    exact strip?_eq_some_iff.mp hpub
  · obtain ⟨_, hkeyword, _, hgap, _, hname, _, hopen, _, hclose, hhead⟩ := h
    cases hhead
    exact ⟨[], cs, rfl, signature?_of_readers hkeyword hgap hname hopen hclose, Or.inl rfl⟩

lemma isSome_head?_of_signature? (h : signature? cs = some (name, body)) (hclose : ')' ∈ body) :
    (head? cs).isSome = true := by
  obtain ⟨lead, hcs⟩ := exists_of_signature? h
  obtain ⟨after, hnamed, hlist⟩ := signature?_eq_some_iff.mp h
  have hpub : (strip? ['p', 'u', 'b'] cs).bind skipBlanks1? = none := by
    rw [hcs]
    rfl
  obtain ⟨parameters, rest, rfl, hparameters⟩ := List.eq_append_cons_of_mem hclose
  have hend : (parameters ++ ')' :: rest).dropWhile (· != ')') = ')' :: rest := by
    rw [List.dropWhile_append_of_pos, List.dropWhile_cons_of_neg (by simp)]
    intro c hc
    rw [bne_iff_ne]
    rintro rfl
    exact hparameters hc
  simp only [named?, Option.bind_eq_bind, Option.bind_eq_some_iff] at hnamed
  obtain ⟨afterKeyword, hkeyword, afterGap, hgap, hname⟩ := hnamed
  have hopen (list : List Char) : strip? ['('] ('(' :: list) = some list := rfl
  have hclosed : strip? [')'] (')' :: rest) = some rest := rfl
  simp only [head?, Option.bind_eq_bind, hpub, hkeyword, Option.bind_some, hgap, hname, hlist,
    hopen, hend, hclosed, Option.isSome_some]

end Symbol

/-! ## First functions -/

namespace FunctionLine

/-- A character that does not occur in a part of a text and stands there or at its end stands at its
end. -/
lemma eq_append_of_between {before input front lead rest : List Char} {c : Char}
    (h : before ++ c :: input = front ++ (lead ++ rest)) (hc : c ∉ lead)
    (hfront : front.length ≤ before.length) (hbefore : before.length ≤ (front ++ lead).length) :
    before = front ++ lead ∧ c :: input = rest := by
  obtain ⟨part, rfl⟩ := List.prefix_of_prefix_length_le ⟨_, h.symm⟩ ⟨_, rfl⟩ hfront
  rw [List.append_assoc, List.append_cancel_left_eq] at h
  rw [List.length_append, List.length_append, Nat.add_le_add_iff_left] at hbefore
  obtain ⟨more, rfl⟩ := List.prefix_of_prefix_length_le ⟨_, h⟩ ⟨_, rfl⟩ hbefore
  rw [List.append_assoc, List.append_cancel_left_eq] at h
  cases more with
  | nil => exact ⟨by rw [List.append_nil], h⟩
  | cons d more =>
    obtain ⟨rfl, -⟩ := List.cons.inj h
    exact absurd (List.mem_append_right part List.mem_cons_self) hc

lemma exists_of_declared {cs : List Char} {declared : Found Symbol.Head} (hfeed : '\n' ∉ cs)
    (h : declared ∈ findAll wordStart Symbol.head? cs) :
    ∃ lead input rest, cs = declared.before ++ (lead ++ input) ∧ Symbol.IsLead lead ∧
      Symbol.head? (lead ++ input) = some (declared.value, rest) ∧
      signature? input = some (declared.value.name, declared.value.parameters ++ ')' :: rest) ∧
      ')' ∉ declared.value.parameters ∧
      ∃ found ∈ (findAll wordStart head? cs).head?,
        found.before.length ≤ (declared.before ++ lead).length := by
  obtain ⟨_, rest, hcs, hstarts, hread⟩ := read_of_mem_findAll h
  obtain ⟨lead, input, rfl, ⟨hsignature, hopen⟩, hlead⟩ := Symbol.exists_signature_of_head? hread
  have hclose : ')' ∈ (declared.value.parameters ++ ')' :: rest).takeWhile (· != '\n') := by
    rw [takeWhile_body ?_ hsignature]
    · exact List.mem_append_right _ List.mem_cons_self
    · intro hmem
      rw [hcs] at hfeed
      exact hfeed (List.mem_append_right _ (List.mem_append_right _ hmem))
  obtain ⟨result, hresult⟩ :=
    Option.isSome_iff_exists.mp (isSome_head?_of_signature? hsignature hclose)
  obtain ⟨found, hfound, hbefore⟩ :=
    exists_mem_head?_findAll (ne_nil_of_signature? hsignature) (hlead.wordStart hstarts) hresult
  rw [List.append_assoc, ← hcs] at hfound
  exact ⟨lead, input, rest, hcs, hlead, hread, hsignature, hopen, found, hfound, hbefore⟩

/-- **The first function of a line is the first one for either reader.** -/
lemma exists_first {cs : List Char} {found : Found Head} (hfeed : '\n' ∉ cs)
    (h : found ∈ (findAll wordStart head? cs).head?) :
    ∃ declared ∈ (findAll wordStart Symbol.head? cs).head?, ∃ lead input rest after,
      found.before = declared.before ++ lead ∧ cs = found.before ++ input ∧
      Symbol.head? (lead ++ input) = some (declared.value, rest) ∧
      head? input = some (found.value, after) ∧
      signature? input = some (declared.value.name, declared.value.parameters ++ ')' :: rest) ∧
      ')' ∉ declared.value.parameters := by
  obtain ⟨input, after, hcs, hstarts, hread⟩ := read_of_mem_findAll (List.mem_of_mem_head? h)
  obtain ⟨body, inner, _, hsignature, hline, -⟩ := exists_signature_of_head? hread
  obtain ⟨tail, hinput⟩ := exists_of_signature? hsignature
  have hclose : ')' ∈ body := by
    refine (List.takeWhile_subset (· != '\n')) ?_
    rw [hline]
    simp
  -- A declaration can be read where the function is.
  obtain ⟨result, hresult⟩ :=
    Option.isSome_iff_exists.mp (Symbol.isSome_head?_of_signature? hsignature hclose)
  obtain ⟨declared, hdeclared, hbefore⟩ :=
    exists_mem_head?_findAll (ne_nil_of_signature? hsignature) hstarts hresult
  rw [← hcs] at hdeclared
  -- A function can be read where the signature of the declaration is.
  obtain ⟨lead, input', rest, hcs', hlead, hread', hsignature', hopen, found', hfound', hbefore'⟩ :=
    exists_of_declared hfeed (List.mem_of_mem_head? hdeclared)
  rw [Option.mem_def.mp h] at hfound'
  cases hfound'
  -- Between the two there is no place for the keyword.
  rw [hinput] at hcs
  obtain ⟨hplace, rfl⟩ := eq_append_of_between (hcs.symm.trans hcs') hlead.notMem hbefore hbefore'
  rw [← hinput] at hcs hread' hsignature'
  exact ⟨declared, hdeclared, lead, input, rest, after, hplace, hcs, hread', hread, hsignature',
    hopen⟩

/-- The function and the declaration have their parameters behind the same parenthesis, the function
up to the last and the declaration up to the first one that closes. -/
structure SharesOpening (cs front body : List Char) (found : Found Head)
    (declared : Found Symbol.Head) : Prop where
  stands : cs = front ++ '(' :: body
  name_eq : declared.value.name = found.value.name
  shownAt : byteLength front = byteLength found.before + found.value.parametersAt
  shown : ∃ inner after, body = inner ++ ')' :: after ∧ ')' ∉ after ∧
    found.value.parameters = '(' :: (inner ++ [')'])
  declaredAt : byteLength front + 1 = byteLength declared.before + declared.value.parametersAt
  listed : ∃ rest, body = declared.value.parameters ++ ')' :: rest
  closed : ')' ∉ declared.value.parameters

lemma exists_sharesOpening {cs : List Char} {found : Found Head} (hfeed : '\n' ∉ cs)
    (h : found ∈ (findAll wordStart head? cs).head?) :
    ∃ declared ∈ (findAll wordStart Symbol.head? cs).head?, ∃ front body,
      SharesOpening cs front body found declared := by
  obtain ⟨declared, hdeclared, lead, input, rest, after, hplace, hcs, hread', hread, hsignature,
    hopen⟩ := exists_first hfeed h
  obtain ⟨body, inner, tail, hsignature', hinner, htail, hat, hparameters⟩ :=
    exists_signature_of_head? hread
  have hinput : '\n' ∉ input := fun hmem => hfeed (hcs ▸ List.mem_append_right _ hmem)
  rw [takeWhile_body hinput hsignature'] at hinner
  rw [hsignature, Option.some.injEq, Prod.mk.injEq] at hsignature'
  obtain ⟨hname, rfl⟩ := hsignature'
  obtain ⟨signature, rfl⟩ := exists_of_signature? hsignature
  rw [← List.cons_append] at hcs hat hread'
  generalize 'f' :: signature = signature at hcs hat hread'
  have hat' := Symbol.parametersAt_of_head? hread'
  have hsize : '('.utf8Size = 1 := rfl
  refine ⟨declared, hdeclared, found.before ++ signature, _, ?_, hname, ?_,
    ⟨inner, tail, hinner, htail, hparameters⟩, ?_, ⟨rest, rfl⟩, hopen⟩
  · rw [hcs, List.append_assoc]
  · rw [hat, byteLength_append, byteLength_append, Nat.add_sub_cancel]
  · rw [hat', hplace]
    simp only [byteLength_append, byteLength_cons, hsize]
    omega

/-- Either reader finds a function first of the same name, or finds none. -/
lemma map_name_head?_findAll {cs : List Char} (hfeed : '\n' ∉ cs) :
    (findAll wordStart head? cs).head?.map (·.value.name) =
      (findAll wordStart Symbol.head? cs).head?.map (·.value.name) := by
  cases hfound : (findAll wordStart head? cs).head? with
  | some found =>
    obtain ⟨declared, hdeclared, _, _, hshares⟩ := exists_sharesOpening hfeed hfound
    rw [Option.mem_def.mp hdeclared, Option.map_some, Option.map_some, hshares.name_eq]
  | none =>
    cases hdeclared : (findAll wordStart Symbol.head? cs).head? with
    | none => rfl
    | some declared =>
      obtain ⟨_, _, _, -, -, -, -, -, found, hmem, -⟩ :=
        exists_of_declared hfeed (List.mem_of_mem_head? hdeclared)
      rw [hfound] at hmem
      cases hmem

/-- **The outline and the scan for symbols recognise the same function on a line.**  A line declares
a function for the outline exactly when the scan finds symbols on it, and its name is that of the
first symbol. -/
theorem readers_recognise_same_function {line : String} (hfeed : '\n' ∉ line.toList) :
    ((find? line).isSome = true ↔ Symbol.scan line none .current ≠ []) ∧
      ∀ f, find? line = some f →
        ∃ symbol, (Symbol.scan line none .current).head? = some symbol ∧ symbol.name = f.name := by
  have hscrub : scrub line.toList = scrubLine line.toList := by
    by_cases hne : line.toList = []
    · rw [hne]
      rfl
    · exact scrub_unended hfeed hne
  have hnames : (find? line).map (·.name) =
      (Symbol.scan line none .current).head?.map (·.name) := by
    have h := congrArg (Option.map String.ofList)
      (map_name_head?_findAll (lineFeed_notMem_scrubLine hfeed))
    rw [Option.map_map, Option.map_map] at h
    rw [find?, Symbol.scan_current, hscrub, Option.map_map, List.head?_map, Option.map_map]
    exact h
  constructor
  · rw [← Option.isSome_map, hnames, Option.isSome_map, List.isSome_head?]
  · intro f hf
    rw [hf, Option.map_some] at hnames
    obtain ⟨symbol, hsymbol, hname⟩ := Option.map_eq_some_iff.mp hnames.symm
    exact ⟨symbol, hsymbol, hname⟩

/-- A keyword at the end of a word and one before a number declare nothing, and parentheses need not
match. -/
theorem readers_recognise_same_function_crowded :
    let line := "\u00e9fn a() fn 1(b) xpub  fn g\u00e9 (c, (d) fn pub fn h()"
    '\n' ∉ line.toList ∧
      find? line = some ⟨"g\u00e9", "(c, (d) fn pub fn h()"⟩ ∧
      Symbol.scan line none .current ≠ [] ∧
      ∃ symbol, (Symbol.scan line none .current).head? = some symbol ∧
        symbol.name = "g\u00e9" := by
  intro line
  have hfeed : '\n' ∉ line.toList := by decide +kernel
  have hfind : find? line = some ⟨"g\u00e9", "(c, (d) fn pub fn h()"⟩ := by decide +kernel
  have hsame := readers_recognise_same_function hfeed
  exact ⟨hfeed, hfind, hsame.1.mp (Option.isSome_iff_exists.mpr ⟨_, hfind⟩), hsame.2 _ hfind⟩

/-! ## The parameters of the first function -/

lemma sliceBytes_shown {line : List Char} {front shown tail : List (Char × Mark)}
    {found : Found Head}
    (hline : markLine line = front ++ ('(', .code) :: (shown ++ (')', .code) :: tail))
    (hfront : byteLength (front.map Prod.fst) = byteLength found.before + found.value.parametersAt)
    (hshown : found.value.parameters = '(' :: (shown.flatMap visible ++ [')'])) :
    sliceBytes (byteLength found.before + found.value.parametersAt)
        (byteLength found.before + found.value.parametersAt + byteLength found.value.parameters)
        line =
      '(' :: (shown.map Prod.fst ++ [')']) := by
  have hwritten : line =
      front.map Prod.fst ++ '(' :: (shown.map Prod.fst ++ [')']) ++ tail.map Prod.fst := by
    rw [← map_fst_markLine line, hline]
    simp
  have hlength : byteLength found.value.parameters =
      byteLength ('(' :: (shown.map Prod.fst ++ [')'])) := by
    simp only [hshown, byteLength_cons, byteLength_append, byteLength_flatMap_visible]
  have hslice := sliceBytes_append (front.map Prod.fst) ('(' :: (shown.map Prod.fst ++ [')']))
    (tail.map Prod.fst)
  rwa [← hwritten, byteLength_append, hfront, ← hlength] at hslice

/-- What ends at a later parenthesis is never the same list, whatever blanks stand at the ends. -/
lemma trim_eq_iff_of_append {list rest shown tail : List (Char × Mark)}
    (hlist : (')', .code) ∉ list) (htail : (')', .code) ∉ tail)
    (h : list ++ (')', Mark.code) :: rest = shown ++ (')', .code) :: tail) :
    trim (shown.map Prod.fst) = trim (list.map Prod.fst) ↔ (')', .code) ∉ rest := by
  rcases List.append_eq_append_iff.mp h with ⟨more, rfl, hrest⟩ | ⟨more, rfl, htail'⟩
  · cases more with
    | nil =>
      obtain ⟨-, rfl⟩ := List.cons.inj hrest
      simpa using htail
    | cons entry more =>
      obtain ⟨rfl, rfl⟩ := List.cons.inj hrest
      refine iff_of_false (fun hsame => ?_) (by simp)
      have hcount := congrArg (List.count ')') hsame
      rw [count_trim (by decide), count_trim (by decide), List.map_append, List.count_append,
        List.map_cons, List.count_cons_self] at hcount
      omega
  · cases more with
    | nil =>
      obtain ⟨-, rfl⟩ := List.cons.inj htail'
      simpa using htail
    | cons entry more =>
      obtain ⟨rfl, -⟩ := List.cons.inj htail'
      exact absurd (List.mem_append_right shown List.mem_cons_self) hlist

/-- **The outline shows the declared parameters exactly when no parenthesis follows them.**  On a
line that declares a function, the first symbol of the scan is this function.  Its parameters are
the text up to the first closing parenthesis of the code, trimmed; the outline shows the text up to
the last one.  Trimmed as well, this is the same text exactly when the two parentheses are one. -/
theorem parameters_eq_rawParameters_iff {line : String} {f : FunctionLine}
    (hfeed : '\n' ∉ line.toList) (h : find? line = some f) :
    ∃ symbol front list rest shown tail,
      (Symbol.scan line none .current).head? = some symbol ∧ symbol.name = f.name ∧
      markLine line.toList = front ++ ('(', .code) :: (list ++ (')', .code) :: rest) ∧
      (')', .code) ∉ list ∧
      list ++ (')', .code) :: rest = shown ++ (')', .code) :: tail ∧ (')', .code) ∉ tail ∧
      symbol.rawParameters = String.ofList (trim (list.map Prod.fst)) ∧
      f.parameters = String.ofList ('(' :: (shown.map Prod.fst ++ [')'])) ∧
      (String.ofList (trim (shown.map Prod.fst)) = symbol.rawParameters ↔ (')', .code) ∉ rest) := by
  obtain ⟨found, hfound, rfl⟩ := Option.map_eq_some_iff.mp h
  obtain ⟨declared, hdeclared, before, body, hshares⟩ :=
    exists_sharesOpening (lineFeed_notMem_scrubLine hfeed) hfound
  obtain ⟨inner, after, hinner, hafter, hparameters⟩ := hshares.shown
  obtain ⟨rest, hrest⟩ := hshares.listed
  have hne : line.toList ≠ [] := by
    intro hnil
    have hstands := hshares.stands
    rw [hnil] at hstands
    exact absurd hstands.symm (by simp [scrubLine, scrubFrom])
  -- The parentheses are code of the line as it is written.
  have hvisible := (flatMap_visible_markLine line.toList).trans hshares.stands
  obtain ⟨front, marked, hmarked, hfront, hbody⟩ := exists_of_flatMap_visible (by decide) hvisible
  obtain ⟨list, restMarked, rfl, hlist, -⟩ :=
    exists_of_flatMap_visible (by decide) (hbody.trans hrest)
  obtain ⟨shown, tail, hsplit, hshown, htail⟩ :=
    exists_of_flatMap_visible (by decide) (hbody.trans hinner)
  have hclosed : (')', .code) ∉ list := code_notMem_of_visible (hlist ▸ hshares.closed)
  have hlast : (')', .code) ∉ tail := code_notMem_of_visible (htail ▸ hafter)
  have hat : byteLength (front.map Prod.fst) = byteLength before := by
    rw [← byteLength_flatMap_visible, hfront]
  have hisList : Symbol.IsListOf line.toList declared list := by
    refine ⟨⟨front, restMarked, ?_, ?_⟩, hclosed, hlist⟩
    · rw [markText_unended hfeed hne, hmarked, List.append_assoc, List.cons_append]
    · rw [hat, hshares.declaredAt]
  have hraw := hisList.rawParameters none
  have hsame := trim_eq_iff_of_append hclosed hlast hsplit
  refine ⟨Symbol.ofFound line.toList none declared, front, list, restMarked, shown, tail, ?_, ?_,
    hmarked, hclosed, hsplit, hlast, hraw, ?_, ?_⟩
  · rw [Symbol.scan_current, scrub_unended hfeed hne, List.head?_map, Option.mem_def.mp hdeclared,
      Option.map_some]
  · exact congrArg String.ofList hshares.name_eq
  · exact congrArg String.ofList
      (sliceBytes_shown (hsplit ▸ hmarked) (hat.trans hshares.shownAt) (hshown ▸ hparameters))
  · rw [hraw, String.ofList_inj, hsame]

/-- In a line whose body calls nothing, the parentheses in the default and in the comment do not
count. -/
theorem parameters_eq_rawParameters_iff_plainBody :
    let line := "pub fn f(a = \")\") \x7b a \x7d // )"
    '\n' ∉ line.toList ∧
    find? line = some ⟨"f", "(a = \")\")"⟩ ∧
    ∃ symbol front list rest shown tail,
      (Symbol.scan line none .current).head? = some symbol ∧ symbol.name = "f" ∧
      markLine line.toList = front ++ ('(', .code) :: (list ++ (')', .code) :: rest) ∧
      (')', .code) ∉ list ∧
      list ++ (')', .code) :: rest = shown ++ (')', .code) :: tail ∧ (')', .code) ∉ tail ∧
      symbol.rawParameters = String.ofList (trim (list.map Prod.fst)) ∧
      "(a = \")\")" = String.ofList ('(' :: (shown.map Prod.fst ++ [')'])) ∧
      (String.ofList (trim (shown.map Prod.fst)) = symbol.rawParameters ↔ (')', .code) ∉ rest) := by
  intro line
  have hfeed : '\n' ∉ line.toList := by decide +kernel
  have hfind : find? line = some ⟨"f", "(a = \")\")"⟩ := by decide +kernel
  exact ⟨hfeed, hfind, parameters_eq_rawParameters_iff hfeed hfind⟩

/-- Where the body calls another function, its beginning is shown as parameters. -/
theorem parameters_may_reach_body :
    let line := "fn f(a) \x7b g(b) \x7d"
    find? line = some ⟨"f", "(a) \x7b g(b)"⟩ ∧
      (Symbol.scan line none .current).map Symbol.rawParameters = ["a"] := by
  constructor
  · decide +kernel
  · decide +kernel

end FunctionLine

end LanguageServer
