import Mathlib.Data.List.Nodup

/-!
# Searches by a key

Tables and collections of documents are lists whose elements are told apart by a key.  Where no key
occurs twice, an element is found by its key exactly when it is in the list
(`find?_eq_some_iff_of_nodup`), and it makes no difference from which end it is looked for
(`findRev?_eq_find?_of_nodup`).  A search for the last result is a search for the last element that
has one (`findSomeRev?_eq_bind_findRev?`).
-/

namespace LanguageServer

variable {α κ : Type} [BEq κ] [LawfulBEq κ] {keyOf : α → κ} {key : κ} {xs : List α}

/-- Where keys are different, the element with a key is the one that is found by it. -/
lemma find?_eq_some_iff_of_nodup (h : (xs.map keyOf).Nodup) {x : α} :
    xs.find? (keyOf · == key) = some x ↔ x ∈ xs ∧ keyOf x = key := by
  constructor
  · intro hfound
    exact ⟨List.mem_of_find?_eq_some hfound, by simpa using List.find?_some hfound⟩
  · rintro ⟨hmem, rfl⟩
    have hsome : (xs.find? (keyOf · == keyOf x)).isSome = true := by
      rw [List.find?_isSome]
      exact ⟨x, hmem, by simp⟩
    obtain ⟨y, hy⟩ := Option.isSome_iff_exists.mp hsome
    have hkey : keyOf y = keyOf x := by simpa using List.find?_some hy
    rw [hy, List.inj_on_of_nodup_map h (List.mem_of_find?_eq_some hy) hmem hkey]

/-- Where keys are different, it makes no difference from which end an element is looked for. -/
lemma findRev?_eq_find?_of_nodup (h : (xs.map keyOf).Nodup) :
    xs.findRev? (keyOf · == key) = xs.find? (keyOf · == key) := by
  have hreverse : (xs.reverse.map keyOf).Nodup := by
    rwa [List.map_reverse, List.nodup_reverse]
  apply Option.ext
  intro x
  rw [List.findRev?_eq_find?_reverse, find?_eq_some_iff_of_nodup hreverse,
    find?_eq_some_iff_of_nodup h, List.mem_reverse]

/-- What is found last is what the last element gives that gives anything. -/
lemma findSomeRev?_eq_bind_findRev? {α β : Type} (f : α → Option β) (xs : List α) :
    xs.findSomeRev? f = (xs.findRev? fun x => (f x).isSome).bind f := by
  rw [List.findSomeRev?_eq_findSome?_reverse, List.findRev?_eq_find?_reverse]
  induction xs.reverse with
  | nil => rfl
  | cons x xs ih =>
    rw [List.findSome?_cons, List.find?_cons]
    cases hx : f x with
    | none => exact ih
    | some y => exact hx.symm

end LanguageServer
