/-!
# Cutting and joining text

`splitOn` cuts a text at every occurrence of a separator and `joinWith` puts parts together with a
separator between them; the second undoes the first (`joinWith_splitOn`).  Both work on any kind of
unit, characters as well as bytes.  `replaceFirst` exchanges the first occurrence of a word.
-/

namespace LanguageServer.Text

variable {α : Type} [DecidableEq α]

/-- The text cut at every occurrence of the separator; there is always at least one part. -/
def splitOn (separator : α) : List α → List (List α)
  | [] => [[]]
  | c :: cs =>
    if c = separator then [] :: splitOn separator cs
    else match splitOn separator cs with
      | [] => [[c]]
      | p :: ps => (c :: p) :: ps

/-- The parts one after the other, with the separator between each two of them. -/
def joinWith {α : Type} (separator : List α) : List (List α) → List α
  | [] => []
  | [p] => p
  | p :: q :: ps => p ++ separator ++ joinWith separator (q :: ps)

/-- Cutting a text leaves at least one part. -/
theorem splitOn_ne_nil (separator : α) (cs : List α) : splitOn separator cs ≠ [] := by
  induction cs with
  | nil => simp [splitOn]
  | cons c cs ih =>
    rw [splitOn]
    split
    · simp
    · split <;> simp

/-- Joining the parts of a text gives the text. -/
theorem joinWith_splitOn (separator : α) (cs : List α) :
    joinWith [separator] (splitOn separator cs) = cs := by
  induction cs with
  | nil => rfl
  | cons c cs ih =>
    rw [splitOn]
    have nonempty := splitOn_ne_nil separator cs
    split
    next h =>
      obtain ⟨p, ps, hp⟩ := List.exists_cons_of_ne_nil nonempty
      rw [hp] at ih ⊢
      simp [joinWith, ih, h]
    · split
      next h => exact absurd h nonempty
      next p ps h =>
        rw [h] at ih
        cases ps with
        | nil => simpa [joinWith] using ih
        | cons q qs => simpa [joinWith] using ih

/-- The text with `new` in place of the first occurrence of `old`, if there is one. -/
def replaceFirst (old new : List Char) : List Char → List Char
  | [] => if old = [] then new else []
  | c :: cs =>
    if old.isPrefixOf (c :: cs) then new ++ (c :: cs).drop old.length
    else c :: replaceFirst old new cs

end LanguageServer.Text
