import CoverageDiff.Text.Rest

/-!
# CoverageDiff.Styled.Plain

Text without styling.  A styling sequence is an escape character, an opening
bracket, any number of digits, semicolons and question marks, and an ASCII
letter.
-/

namespace CoverageDiff.Styled

/-- Whether a character is a parameter of a styling sequence. -/
def isParameter (c : Char) : Bool :=
  c.isDigit || c = ';' || c = '?'

/-- What follows a styling sequence whose escape character has been read. -/
def afterSequence? : List Char → Option (List Char)
  | '[' :: more =>
    match more.dropWhile isParameter with
    | c :: left => if c.isAlpha then some left else none
    | [] => none
  | _ => none

/-- The text without its styling sequences. -/
def withoutSequences (text : List Char) : List Char :=
  match text with
  | [] => []
  | c :: more =>
    if c = '\x1b' then
      match afterSequence? more with
      | some left => withoutSequences (Text.rest more left)
      | none => c :: withoutSequences more
    else c :: withoutSequences more
termination_by text.length
decreasing_by
  · exact Nat.lt_succ_of_le (Text.length_rest_le _ _)
  · simp
  · simp

/-- The string without its styling sequences. -/
def plain (s : String) : String :=
  String.ofList (withoutSequences s.toList)

/-- A text without escape characters is plain. -/
theorem withoutSequences_eq_self {text : List Char} (h : '\x1b' ∉ text) :
    withoutSequences text = text := by
  induction text with
  | nil => simp [withoutSequences]
  | cons c more ih =>
    simp only [List.mem_cons, not_or] at h
    rw [withoutSequences, if_neg (Ne.symm h.1), ih h.2]

end CoverageDiff.Styled
