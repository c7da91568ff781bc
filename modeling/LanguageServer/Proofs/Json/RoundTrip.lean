import Mathlib.Tactic.Common
import LanguageServer.Json.Printer
import LanguageServer.Json.Reader

/-!
# Reading what was written

A text is written as a string literal that denotes it again, whatever characters it consists of
(`string?_quoted`).  So an object whose members are texts is read back, over several lines, as the
same object with its members in the same order (`parse?_pretty_texts`).

The readers spend one unit of fuel on every value and member; the text of a value is longer than the
fuel that reading it takes, so fuel never runs out.
-/

namespace LanguageServer.Json

open Text

/-! ## String literals -/

/-- The characters with a short form in a string literal. -/
def shortForms : List Char := ['"', '\\', '\x08', '\x0c', '\n', '\r', '\t']

/-- What a written character is made of: itself, or its number if it is a control character without
a short form. -/
def pieceOf (c : Char) : Piece :=
  if c ∉ shortForms ∧ c.toNat < 0x20 then .unit c.toNat else .char c

lemma hexValue?_hexDigit : ∀ n < 16, hexValue? (hexDigit 'a' n) = some n := by
  decide

/-- Reading takes one piece off a literal for every character that was written. -/
lemma pieces?_escaped (c : Char) (cs : List Char) :
    pieces? (escaped c ++ cs) =
      (pieces? cs).map fun (pieces, rest) => (pieceOf c :: pieces, rest) := by
  by_cases hshort : c ∈ shortForms
  · simp only [shortForms, List.mem_cons, List.not_mem_nil, or_false] at hshort
    rcases hshort with rfl | rfl | rfl | rfl | rfl | rfl | rfl <;>
      cases h : pieces? cs <;> simp [escaped, pieces?, escape?, pieceOf, shortForms, h]
  · have hne := hshort
    simp only [shortForms, List.mem_cons, List.not_mem_nil, or_false, not_or] at hne
    obtain ⟨hquote, hslash, hb, hf, hn, hr, ht⟩ := hne
    by_cases hcontrol : c.toNat < 0x20
    · have hhigh := hexValue?_hexDigit (c.toNat / 16) (by omega)
      have hlow := hexValue?_hexDigit (c.toNat % 16) (by omega)
      have hzero : hexValue? '0' = some 0 := by decide
      have hunit : hexUnit? '0' '0' (hexDigit 'a' (c.toNat / 16)) (hexDigit 'a' (c.toNat % 16)) =
          some c.toNat := by
        have hdigits : c.toNat / 16 * 16 + c.toNat % 16 = c.toNat := by omega
        simp [hexUnit?, hhigh, hlow, hzero, hdigits]
      simp only [escaped, hquote, hslash, hb, hf, hn, hr, ht, hcontrol, if_true, if_false,
        List.cons_append, List.nil_append, pieces?, hunit, pieceOf, hshort, not_false_eq_true,
        true_and]
      cases pieces? cs <;> rfl
    · simp only [escaped, hquote, hslash, hb, hf, hn, hr, ht, hcontrol, if_false,
        List.cons_append, List.nil_append, pieceOf, and_false]
      rw [pieces?]
      · rw [if_neg hcontrol]
        cases pieces? cs <;> rfl
      · exact fun h => hquote h
      · exact fun _ _ _ _ _ h => absurd h hslash
      · exact fun _ _ h => absurd h hslash

lemma combine?_pieceOf (cs : List Char) : combine? (cs.map pieceOf) = some cs := by
  induction cs with
  | nil => rfl
  | cons c cs ih =>
    rw [List.map_cons, pieceOf]
    split
    next hcontrol =>
      have hhigh : ¬ (0xd800 ≤ c.toNat ∧ c.toNat < 0xdc00) := by omega
      have hlow : ¬ (0xdc00 ≤ c.toNat ∧ c.toNat < 0xe000) := by omega
      unfold combine?
      simp only [if_neg hhigh, if_neg hlow, ih, Char.ofNat_toNat, Option.map_some]
    next => rw [combine?, ih]; rfl

/-- **A written text denotes itself.** -/
lemma string?_quoted (text : String) (rest : List Char) :
    string? (text.toList.flatMap escaped ++ '"' :: rest) = some (some text, rest) := by
  have hpieces : ∀ cs : List Char,
      pieces? (cs.flatMap escaped ++ '"' :: rest) = some (cs.map pieceOf, rest) := by
    intro cs
    induction cs with
    | nil => rfl
    | cons c cs ih =>
      rw [List.flatMap_cons, List.append_assoc, pieces?_escaped, ih]
      rfl
  simp [string?, hpieces, combine?_pieceOf]

/-! ## Objects -/

lemma toList_quoted (text : String) :
    (quoted text).toList = '"' :: (text.toList.flatMap escaped ++ ['"']) := by
  rw [quoted, String.toList_ofList, List.cons_append]

/-- The member of an object for a key and a text. -/
def textMember (member : String × String) : String × Json :=
  (member.1, .text member.2)

lemma skip_newLine (level : Nat) {c : Char} (hc : isSpace c = false) (cs : List Char) :
    skip ((newLine level).toList ++ c :: cs) = c :: cs := by
  have hspaces : ∀ n, skip (List.replicate n ' ' ++ c :: cs) = c :: cs := by
    intro n
    induction n with
    | zero => simp [skip, hc]
    | succ n ih => simpa [List.replicate_succ, skip, isSpace] using ih
  simpa [newLine, skip, isSpace] using hspaces (2 * level)

lemma readValue?_quoted (fuel : Nat) (text : String) (rest : List Char) :
    readValue? (fuel + 1) ((quoted text).toList ++ rest) = some (.text text, rest) := by
  have hstring := string?_quoted text rest
  rw [toList_quoted, List.cons_append, List.append_assoc]
  simp [readValue?, hstring]

/-- A member of an object of texts as it is written, before what follows it. -/
def memberText (level : Nat) (key value : String) (rest : List Char) : List Char :=
  (newLine level).toList ++ ((quoted key).toList ++
    (':' :: ' ' :: ((quoted value).toList ++ rest)))

/-- Reads a member, and goes on as the first character after it says. -/
lemma readMembers?_member (fuel level : Nat) (key value : String) {rest after : List Char}
    {mark : Char} (hrest : skip rest = mark :: after) :
    readMembers? (fuel + 2) (memberText level key value rest) =
      if mark = '}' then some (.object [(key, .text value)], after)
      else if mark = ',' then
        (readMembers? (fuel + 1) after).map fun (more, rest) =>
          (withMember (some key) (.text value) more, rest)
      else none := by
  have hkey := string?_quoted key (':' :: ' ' :: ((quoted value).toList ++ rest))
  have hvalue := readValue?_quoted fuel value rest
  have hcolon : ∀ cs, skip (':' :: cs) = ':' :: cs := fun cs => by simp [skip, isSpace]
  have hspace : skip (' ' :: ((quoted value).toList ++ rest)) = (quoted value).toList ++ rest := by
    rw [toList_quoted]
    simp [skip, isSpace]
  rw [readMembers?, memberText, toList_quoted key, List.cons_append,
    skip_newLine level (by decide), List.append_assoc]
  simp only [List.cons_append, List.nil_append, hkey, hcolon, hspace, hvalue, hrest,
    Option.bind_eq_bind, Option.bind_some]
  by_cases hbrace : mark = '}'
  · subst hbrace
    simp [withMember]
  · by_cases hcomma : mark = ','
    · subst hcomma
      cases hmore : readMembers? (fuel + 1) after <;> simp [hmore]
    · simp [hbrace, hcomma]

lemma readMembers?_pretty (level outer fuel : Nat) (member : String × String)
    (members : List (String × String)) (hfuel : members.length + 2 ≤ fuel) (rest : List Char) :
    readMembers? fuel
        ((prettyMembers level ((member :: members).map textMember)).toList ++
          ((newLine outer).toList ++ '}' :: rest)) =
      some (.object ((member :: members).map textMember), rest) := by
  induction members generalizing member fuel with
  | nil =>
    obtain ⟨fuel, rfl⟩ := Nat.exists_eq_add_of_le' hfuel
    have hmember := readMembers?_member fuel level member.1 member.2
      (skip_newLine outer (show isSpace '}' = false by decide) rest)
    simpa [prettyMembers, prettyAt, atom, textMember, memberText] using hmember
  | cons next members ih =>
    rw [List.length_cons] at hfuel
    obtain ⟨fuel, rfl⟩ := Nat.exists_eq_add_of_le' (Nat.le_of_add_left_le hfuel)
    have hmore := ih (fuel + 1) next (by omega)
    set after := (prettyMembers level ((next :: members).map textMember)).toList ++
      ((newLine outer).toList ++ '}' :: rest) with hafter
    have hcomma : skip (',' :: after) = ',' :: after := by simp [skip, isSpace]
    have hmember := readMembers?_member fuel level member.1 member.2 hcomma
    rw [hmore] at hmember
    simpa [prettyMembers, prettyAt, atom, textMember, memberText, withMember, hafter]
      using hmember

lemma length_le_prettyMembers (level : Nat) (members : List (String × String)) :
    members.length ≤ (prettyMembers level (members.map textMember)).toList.length := by
  have hline : 1 ≤ (newLine level).toList.length := by simp [newLine]
  induction members with
  | nil => simp
  | cons member members ih =>
    cases members with
    | nil =>
      simp only [List.map_cons, List.map_nil, prettyMembers, textMember, String.toList_append,
        List.length_append, List.length_cons, List.length_nil]
      omega
    | cons next members =>
      simp only [List.map_cons, prettyMembers, textMember, String.toList_append,
        List.length_append, List.length_cons] at ih ⊢
      omega

/-- Written members begin, after blanks, with the quote of a key. -/
lemma skip_prettyMembers (level : Nat) (member : String × String)
    (members : List (String × String)) (rest : List Char) :
    ∃ cs, skip ((prettyMembers level ((member :: members).map textMember)).toList ++ rest) =
      '"' :: cs := by
  have hkey := fun cs => skip_newLine level (show isSpace '"' = false by decide) cs
  cases members with
  | nil => simp [prettyMembers, textMember, toList_quoted, hkey]
  | cons next members => simp [prettyMembers, textMember, toList_quoted, hkey]

lemma skip_skip (cs : List Char) : skip (skip cs) = skip cs := by
  induction cs with
  | nil => rfl
  | cons c cs ih =>
    by_cases hc : isSpace c
    · simpa [skip, hc] using ih
    · simp [skip, hc]

lemma readMembers?_skip (fuel : Nat) (cs : List Char) :
    readMembers? fuel (skip cs) = readMembers? fuel cs := by
  cases fuel with
  | zero => simp [readMembers?]
  | succ fuel => rw [readMembers?, skip_skip, readMembers?]

/-- **An object of texts is read back as it was written.** -/
theorem parse?_pretty_texts (members : List (String × String)) :
    parse? (pretty (.object (members.map textMember))) =
      some (.object (members.map textMember)) := by
  cases members with
  | nil => rfl
  | cons member members =>
    set body := (prettyMembers 1 ((member :: members).map textMember)).toList with hbody
    have htext : (pretty (.object ((member :: members).map textMember))).toList =
        '{' :: (body ++ ((newLine 0).toList ++ ['}'])) := by
      simp [pretty, prettyAt, hbody]
    have hfuel : (body ++ ((newLine 0).toList ++ ['}'])).length = body.length + 2 := by
      simp [newLine]
    have hlength := length_le_prettyMembers 1 (member :: members)
    rw [List.length_cons, ← hbody] at hlength
    have hmembers := readMembers?_pretty 1 0 (body.length + 3) member members (by omega) []
    rw [← hbody, ← readMembers?_skip] at hmembers
    obtain ⟨cs, hquote⟩ := skip_prettyMembers 1 member members ((newLine 0).toList ++ ['}'])
    rw [← hbody] at hquote
    rw [hquote] at hmembers
    have hopen : ∀ cs, skip ('{' :: cs) = '{' :: cs := fun cs => by simp [skip, isSpace]
    simp only [parse?, htext, hopen, List.length_cons, hfuel, readValue?, hquote,
      Option.bind_eq_bind]
    show (readMembers? (body.length + 3) ('"' :: cs)).bind _ = _
    rw [hmembers]
    rfl

end LanguageServer.Json
