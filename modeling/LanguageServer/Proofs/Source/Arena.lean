import Mathlib.Tactic.Common
import LanguageServer.Proofs.Source.Outline
import LanguageServer.Source.Arena

/-!
# The array holds the outline

An outline that is built in an array is the same as one that is built of trees, and no position is
looked up that the array does not have (`Outline.Arena.build_eq`).

The nodes lie in the array in preorder, so each finished tree fills a range of positions
(`Laid`).  While the outline is being built, the open functions cut the array into such ranges, one
for the finished nodes inside each of them (`Stacked`).  A change to a slot outside a range does not
concern what is laid there.  A declaration is made in two steps, and so is the end of a function: a
slot gets its place behind everything else (`Stacked.link`), and what hangs on it becomes a finished
tree (`Stacked.attach`).
-/

namespace LanguageServer

open Text Source

namespace Outline

namespace Arena

variable {slots after : Array Slot} {lower upper index : Nat} {links inner : List Nat}
  {nodes roots : List OutlineNode} {stack : List (Nat × Int)} {opened : List OpenFunction}

/-! ## Finished trees -/

/-- The slots from one position up to another one hold the trees, in preorder; `links` are the
positions of the trees themselves. -/
inductive Laid (slots : Array Slot) : Nat → Nat → List Nat → List OutlineNode → Prop where
  | nil (index : Nat) : Laid slots index index [] []
  | snoc {lower index upper start stop : Nat} {links children : List Nat}
    {nodes inside : List OutlineNode} {entry : Entry}
    (hbefore : Laid slots lower index links nodes)
    (hslot : slots[index]? = some ⟨entry, start, stop, children⟩)
    (hinside : Laid slots (index + 1) upper children inside) :
    Laid slots lower upper (links ++ [index])
      (nodes ++ [⟨entry.name, entry.kind, entry.detail, start, stop, inside⟩])

lemma Laid.le (h : Laid slots lower upper links nodes) : lower ≤ upper := by
  induction h with
  | nil index => exact Nat.le_refl _
  | snoc _ _ _ hbefore hinside => omega

/-- Trees depend on the slots of their range alone. -/
lemma Laid.congr (h : Laid slots lower upper links nodes)
    (hsame : ∀ index, lower ≤ index → index < upper → after[index]? = slots[index]?) :
    Laid after lower upper links nodes := by
  induction h with
  | nil index => exact .nil index
  | snoc hbefore hslot hinside ihbefore ihinside =>
    have hlower := hbefore.le
    have hupper := hinside.le
    refine .snoc (ihbefore fun index hle hlt => hsame index hle (by omega)) ?_
      (ihinside fun index hle hlt => hsame index (by omega) hlt)
    rw [hsame _ hlower (by omega), hslot]

lemma getElem?_push_of_lt (slot : Slot) (h : index < slots.size) :
    (slots.push slot)[index]? = slots[index]? := by
  rw [Array.getElem?_push, if_neg (Nat.ne_of_lt h)]

lemma getElem?_modify_of_ne {other : Nat} (f : Slot → Slot) (h : other ≠ index) :
    (slots.modify index f)[other]? = slots[other]? := by
  rw [Array.getElem?_modify, if_neg h.symm]

lemma Laid.push (h : Laid slots lower upper links nodes) (hupper : upper ≤ slots.size)
    (slot : Slot) : Laid (slots.push slot) lower upper links nodes :=
  h.congr fun _ _ hlt => getElem?_push_of_lt slot (Nat.lt_of_lt_of_le hlt hupper)

lemma Laid.modify (h : Laid slots (index + 1) upper links nodes) (f : Slot → Slot) :
    Laid (slots.modify index f) (index + 1) upper links nodes :=
  h.congr fun _ hle _ => getElem?_modify_of_ne f (Nat.ne_of_gt hle)

/-- **What is laid in the array is put together from it.**  A range has room for as many levels as
it has positions. -/
lemma Laid.mapM_assemble {levels : Nat} (h : Laid slots lower upper links nodes)
    (hlevels : upper - lower ≤ levels) : links.mapM (assemble slots levels) = some nodes := by
  induction h generalizing levels with
  | nil index => rfl
  | snoc hlaid hslot hlaidInside hbefore hinside =>
    have hlower := hlaid.le
    have hupper := hlaidInside.le
    obtain ⟨levels, rfl⟩ : ∃ more, levels = more + 1 := ⟨levels - 1, by omega⟩
    have hchildren := @hinside levels (by omega)
    rw [List.mapM_append, hbefore (by omega), List.mapM_cons, assemble, hslot]
    simp [hchildren]

/-! ## Open functions -/

/-- The slots below a position hold the outline so far.  The open functions are on the stack, each
with its finished nodes; the innermost level, inside the last of them or at the roots, has further
links `inner` besides those to its finished nodes. -/
inductive Stacked (slots : Array Slot) (links : List Nat) (roots : List OutlineNode) :
    Nat → List Nat → List (Nat × Int) → List OpenFunction → Prop where
  | outermost {upper : Nat} {finished inner : List Nat}
    (hlinks : links = finished ++ inner)
    (hroots : Laid slots 0 upper finished roots.reverse) :
    Stacked slots links roots upper inner [] []
  | inside {upper index : Nat} {finished inner : List Nat} {stack : List (Nat × Int)}
    {o : OpenFunction} {opened : List OpenFunction}
    (houter : Stacked slots links roots index [index] stack opened)
    (hslot : slots[index]? = some ⟨o.entry, o.start, o.start, finished ++ inner⟩)
    (hinside : Laid slots (index + 1) upper finished o.inside.reverse) :
    Stacked slots links roots upper inner ((index, o.depth) :: stack) (o :: opened)

/-- The outline so far depends on the slots below the position alone. -/
lemma Stacked.congr (h : Stacked slots links roots upper inner stack opened)
    (hsame : ∀ index < upper, after[index]? = slots[index]?) :
    Stacked after links roots upper inner stack opened := by
  induction h with
  | outermost hlinks hroots => exact .outermost hlinks (hroots.congr fun index _ => hsame index)
  | inside houter hslot hinside ih =>
    have hupper := hinside.le
    refine .inside (ih fun index hlt => hsame index (by omega)) ?_
      (hinside.congr fun index _ => hsame index)
    rw [hsame _ (by omega), hslot]

lemma Stacked.push (h : Stacked slots links roots upper inner stack opened)
    (hupper : upper ≤ slots.size) (slot : Slot) :
    Stacked (slots.push slot) links roots upper inner stack opened :=
  h.congr fun _ hlt => getElem?_push_of_lt slot (Nat.lt_of_lt_of_le hlt hupper)

lemma Stacked.modify (h : Stacked slots links roots index inner stack opened) (f : Slot → Slot) :
    Stacked (slots.modify index f) links roots index inner stack opened :=
  h.congr fun _ hlt => getElem?_modify_of_ne f (Nat.ne_of_lt hlt)

/-- **A slot whose inside is finished becomes a tree** of the innermost level. -/
lemma Stacked.attach {start stop : Nat} {children : List Nat} {inside : List OutlineNode}
    {entry : Entry} {b : Builder}
    (h : Stacked slots links b.roots index [index] stack b.opened)
    (hslot : slots[index]? = some ⟨entry, start, stop, children⟩)
    (hinside : Laid slots (index + 1) upper children inside) :
    let attached := b.attach ⟨entry.name, entry.kind, entry.detail, start, stop, inside⟩
    Stacked slots links attached.roots upper [] stack attached.opened := by
  obtain ⟨roots, opened, depth, mark⟩ := b
  cases h with
  | outermost hlinks hroots =>
    have hlaid := hroots.snoc hslot hinside
    rw [← List.reverse_cons] at hlaid
    exact .outermost (by rw [hlinks, List.append_nil]) hlaid
  | @inside _ _ _ _ _ o _ houter houterSlot hfinished =>
    have hlaid := hfinished.snoc hslot hinside
    rw [← List.reverse_cons] at hlaid
    exact .inside (o := { o with inside := _ :: o.inside }) houter
      (by rw [houterSlot, List.append_nil]) hlaid

lemma change_of_lt {f : Slot → Slot} (h : index < slots.size) :
    change index f slots = some (slots.modify index f) := by
  rw [change, if_pos h]

/-- **A new slot is noted** in the innermost open function, or among the roots. -/
lemma Stacked.link {a : Arena} (slot : Slot)
    (h : Stacked a.slots a.roots roots a.slots.size [] a.stack opened) :
    ∃ linked, Arena.link a.slots.size { a with slots := a.slots.push slot } = some linked ∧
      Stacked linked.slots linked.roots roots a.slots.size [a.slots.size] a.stack opened ∧
      linked.slots[a.slots.size]? = some slot ∧ linked.slots.size = a.slots.size + 1 ∧
      linked.stack = a.stack ∧ linked.depth = a.depth ∧ linked.mark = a.mark := by
  obtain ⟨slots, links, stack, depth, mark⟩ := a
  dsimp only at h ⊢
  cases h with
  | outermost hlinks hroots =>
    refine ⟨_, rfl, .outermost ?_ (hroots.push (Nat.le_refl _) slot), ?_, ?_, rfl, rfl, rfl⟩
    · rw [hlinks, List.append_nil]
    · simp
    · simp
  | @inside _ index finished _ stack o opened houter hslot hinside =>
    have hindex : index < slots.size := hinside.le
    set f : Slot → Slot := fun slot => { slot with children := slot.children ++ [slots.size] }
    have hchange : change index f (slots.push slot) = some ((slots.push slot).modify index f) :=
      change_of_lt (by rw [Array.size_push]; omega)
    have hchanged : ((slots.push slot).modify index f)[index]? =
        some ⟨o.entry, o.start, o.start, finished ++ [slots.size]⟩ := by
      rw [Array.getElem?_modify, if_pos rfl, getElem?_push_of_lt slot hindex, hslot,
        List.append_nil]
      rfl
    refine ⟨⟨(slots.push slot).modify index f, links, (index, o.depth) :: stack, depth, mark⟩, ?_,
      .inside ((houter.push (Nat.le_of_lt hindex) slot).modify f) hchanged
        ((hinside.push (Nat.le_refl _) slot).modify f), ?_, ?_, rfl, rfl, rfl⟩
    · simp only [Arena.link, f, hchange]
      rfl
    · rw [getElem?_modify_of_ne f (Nat.ne_of_gt hindex)]
      simp
    · simp

/-! ## Lines -/

/-- The array holds the outline that is being built of trees. -/
structure Holds (a : Arena) (b : Builder) : Prop where
  stacked : Stacked a.slots a.roots b.roots a.slots.size [] a.stack b.opened
  depth : a.depth = b.depth
  mark : a.mark = b.mark

variable {a : Arena} {b : Builder}

lemma Holds.declare (h : Holds a b) (line : Nat) (hasBody : Bool) (entry : Entry) :
    ∃ declared, a.declare line hasBody entry = some declared ∧
      Holds declared (b.declare line hasBody entry) := by
  obtain ⟨linked, hlink, hstacked, hslot, hsize, hstack, hdepth, hmark⟩ :=
    h.stacked.link ⟨entry, line, line, []⟩
  have hinside : Laid linked.slots (a.slots.size + 1) linked.slots.size [] [] := by
    rw [hsize]
    exact .nil _
  unfold Arena.declare Builder.declare
  by_cases hopens : entry.kind = .function ∧ hasBody = false
  · simp only [if_pos hopens, hlink]
    refine ⟨_, rfl, ?_, hdepth.trans h.depth, hmark.trans h.mark⟩
    rw [hstack, hdepth, h.depth]
    exact .inside (o := ⟨entry, line, b.depth, []⟩) hstacked hslot hinside
  · simp only [if_neg hopens, hlink]
    have hattach := hstacked.attach hslot hinside
    rw [← hstack] at hattach
    refine ⟨_, rfl, hattach, ?_, ?_⟩
    · rw [Builder.depth_attach, hdepth, h.depth]
    · rw [Builder.mark_attach, hmark, h.mark]

/-- The innermost open function ends where its slot says. -/
lemma Stacked.finish {o : OpenFunction} {finished : List Nat} (stop : OpenFunction → Nat)
    (houter : Stacked slots links roots index [index] stack opened)
    (hslot : slots[index]? = some ⟨o.entry, o.start, stop o, finished⟩)
    (hinside : Laid slots (index + 1) upper finished o.inside.reverse) (depth : Int)
    (mark : Option String) :
    let done := Builder.finish stop ⟨roots, o :: opened, depth, mark⟩
    Stacked slots links done.roots upper [] stack done.opened :=
  Stacked.attach (b := ⟨roots, opened, depth, mark⟩) houter hslot hinside

lemma Holds.closeBrace (h : Holds a b) (line : Nat) :
    ∃ closed, a.closeBrace line = some closed ∧ Holds closed (b.closeBrace line) := by
  obtain ⟨slots, links, stack, depth, mark⟩ := a
  obtain ⟨roots, opened, depth', mark'⟩ := b
  obtain ⟨hstacked, rfl, rfl⟩ := h
  cases hstacked with
  | outermost hlinks hroots => exact ⟨_, rfl, .outermost hlinks hroots, rfl, rfl⟩
  | @inside _ index finished _ stack o opened houter hslot hinside =>
    have hindex : index < slots.size := hinside.le
    simp only [Arena.closeBrace, Builder.closeBrace]
    split
    next hdepth =>
      set f : Slot → Slot := fun slot => { slot with stop := line }
      have hchanged : (slots.modify index f)[index]? =
          some ⟨o.entry, o.start, line, finished⟩ := by
        rw [Array.getElem?_modify, if_pos rfl, hslot, List.append_nil]
        rfl
      have hfinish := Stacked.finish (fun _ => line) (houter.modify f) hchanged (hinside.modify f)
        (depth - 1) mark
      rw [change_of_lt hindex]
      refine ⟨_, rfl, ?_, ?_, ?_⟩
      · rw [Array.size_modify]
        exact hfinish
      · rw [Builder.finish, Builder.depth_attach]
      · rw [Builder.finish, Builder.mark_attach]
    next hdepth => exact ⟨_, rfl, .inside houter hslot hinside, rfl, rfl⟩

lemma Holds.closeBraces (h : Holds a b) (line count : Nat) :
    ∃ closed, a.closeBraces line count = some closed ∧ Holds closed (b.closeBraces line count) := by
  induction count generalizing a b with
  | zero => exact ⟨a, rfl, h⟩
  | succ count ih =>
    obtain ⟨next, hnext, hholds⟩ := h.closeBrace line
    obtain ⟨closed, hclosed, hholds⟩ := ih hholds
    refine ⟨closed, ?_, hholds⟩
    simp only [Arena.closeBraces, hnext, ← hclosed]
    rfl

/-- **A line** does the same to the array and to the trees. -/
lemma Holds.step (h : Holds a b) (number : Nat) (line : List Char) :
    ∃ next, a.step number line = some next ∧ Holds next (b.step number line) := by
  unfold Arena.step Builder.step
  rw [h.mark]
  generalize readLine b.mark line = reading
  obtain ⟨entry, hasBody, closes, opens, mark⟩ := reading
  have hdeclare : ∃ declared,
      entry.elim (some a) (a.declare number hasBody ·) = some declared ∧
        Holds declared (entry.elim b (b.declare number hasBody ·)) := by
    cases entry with
    | none => exact ⟨a, rfl, h⟩
    | some entry => exact h.declare number hasBody entry
  obtain ⟨declared, hdeclared, hholds⟩ := hdeclare
  obtain ⟨closed, hclosed, hholds⟩ := hholds.closeBraces number closes
  refine ⟨{ closed with depth := closed.depth + opens, mark }, ?_, ?_⟩
  · simp only [hdeclared, Option.bind_eq_bind, Option.bind_some, hclosed]
    rfl
  · cases entry <;> exact ⟨hholds.stacked, congrArg (· + (opens : Int)) hholds.depth, rfl⟩

lemma Holds.run (h : Holds a b) (ls : List (List Char)) (number : Nat) :
    ∃ last, (ls.zipIdx number).foldlM (fun a (line, number) => a.step number line) a = some last ∧
      Holds last (b.run number ls) := by
  induction ls generalizing a b number with
  | nil => exact ⟨a, rfl, h⟩
  | cons line rest ih =>
    obtain ⟨next, hnext, hholds⟩ := h.step number line
    obtain ⟨last, hlast, hholds⟩ := ih hholds (number + 1)
    refine ⟨last, ?_, hholds⟩
    simp only [List.zipIdx_cons, List.foldlM_cons, hnext, ← hlast]
    rfl

/-! ## The end of the text -/

/-- A function that is never closed ends on its first line, as its slot says all along. -/
lemma Stacked.finishAll (h : Stacked slots links b.roots upper [] stack b.opened) :
    Laid slots 0 upper links (b.finishAll b.opened.length).roots.reverse := by
  induction stack generalizing b with
  | nil =>
    obtain ⟨roots, opened, depth, mark⟩ := b
    cases h with
    | outermost hlinks hroots =>
      rw [hlinks, List.append_nil]
      exact hroots
  | cons top stack ih =>
    obtain ⟨roots, opened, depth, mark⟩ := b
    cases h with
    | @inside _ index finished _ _ o opened houter hslot hinside =>
      rw [List.append_nil] at hslot
      have hlaid := ih (Stacked.finish (·.start) houter hslot hinside depth mark)
      rw [Builder.length_opened_finish] at hlaid
      exact hlaid

/-- **The array and the trees give the same outline**, and every position that is looked up in the
array is there. -/
theorem build_eq (text : String) : Arena.build text = some (Outline.build text) := by
  have hempty : Holds Arena.empty Builder.empty := ⟨.outermost rfl (.nil 0), rfl, rfl⟩
  obtain ⟨last, hlast, hholds⟩ := hempty.run (lines text.toList) 0
  rw [Arena.build, hlast]
  exact hholds.stacked.finishAll.mapM_assemble (Nat.sub_le _ _)

end Arena

end Outline

end LanguageServer
