/-!
# CoverageDiff.Text.LineEnd

Line ends of text files.  A carriage return ends a line as a line feed does,
and a line feed right after it belongs to it.
-/

namespace CoverageDiff.Text

/-- The text with a line feed for every line end. -/
def unifyLineEnds : List Char → List Char
  | '\r' :: '\n' :: more => '\n' :: unifyLineEnds more
  | '\r' :: more => '\n' :: unifyLineEnds more
  | c :: more => c :: unifyLineEnds more
  | [] => []

end CoverageDiff.Text
