/-!
# Parts of a text

A text split at a separator, with the parts between two separators and at both
ends, empty ones included. Joining the parts gives the text back.
-/

namespace CircuitDispatch.Text

/-- The parts of a list of characters between separators. -/
def splitList (separator : Char) : List Char → List (List Char)
  | [] => [[]]
  | c :: rest =>
    if c = separator then [] :: splitList separator rest
    else
      match splitList separator rest with
      | part :: parts => (c :: part) :: parts
      | [] => [[c]]

/-- The parts of a text between separators. -/
def split (separator : Char) (s : String) : List String :=
  (splitList separator s.toList).map String.ofList

theorem splitList_ne_nil (separator : Char) (s : List Char) : splitList separator s ≠ [] := by
  cases s with
  | nil => simp [splitList]
  | cons c rest =>
    simp only [splitList]
    split
    · simp
    · split <;> simp

/-- The parts hold everything but the separators. -/
theorem intercalate_splitList (separator : Char) (s : List Char) :
    [separator].intercalate (splitList separator s) = s := by
  induction s with
  | nil => rfl
  | cons c rest ih =>
    simp only [splitList]
    split
    · next h =>
      subst h
      cases hs : splitList c rest with
      | nil => exact absurd hs (splitList_ne_nil c rest)
      | cons part parts => rw [hs] at ih; simp [List.intercalate, ← ih]
    · split
      · next part parts hs =>
        rw [hs] at ih
        cases parts <;> simp_all [List.intercalate]
      · next hs => exact absurd hs (splitList_ne_nil separator rest)

end CircuitDispatch.Text
