/-!
# CoverageDiff.Text.Rest

Going on after a part of a list has been read.

A reader that takes something from the front of a list returns what it left.
`rest xs left` is that remainder, seen as an end of `xs`: it is never longer
than `xs`, whatever the reader does, so a loop that goes on with it ends.
-/

namespace CoverageDiff.Text

/-- The end of `xs` that is as long as `left`. -/
def rest {α : Type} (xs left : List α) : List α :=
  xs.drop (xs.length - left.length)

/-- An end of a list is not longer than the list. -/
theorem length_rest_le {α : Type} (xs left : List α) : (rest xs left).length ≤ xs.length := by
  simp [rest]

/-- What follows the first element of an end of a list is shorter than the list. -/
theorem length_lt_of_rest_cons {α : Type} {xs left more : List α} {a : α}
    (h : rest xs left = a :: more) : more.length < xs.length := by
  have := length_rest_le xs left
  rw [h] at this
  exact this

/-- The same for an end of what follows. -/
theorem length_rest_lt_of_rest_cons {α : Type} {xs left more next : List α} {a : α}
    (h : rest xs left = a :: more) : (rest more next).length < xs.length :=
  Nat.lt_of_le_of_lt (length_rest_le more next) (length_lt_of_rest_cons h)

end CoverageDiff.Text
