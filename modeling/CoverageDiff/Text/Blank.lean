import CoverageDiff.Text.Ranges

/-!
# CoverageDiff.Text.Blank

Blanks, and what is said in terms of them: trimming and splitting into words.

1. `trim` removes the blanks at both ends.
2. `words` are the longest runs without a blank.
-/

namespace CoverageDiff.Text

/-- The code points of blanks: separators, line ends and the controls that act as such. -/
def blankRanges : List Range :=
  [(0x9, 0xd), (0x1c, 0x20), (0x85, 0x85), (0xa0, 0xa0), (0x1680, 0x1680), (0x2000, 0x200a),
    (0x2028, 0x2029), (0x202f, 0x202f), (0x205f, 0x205f), (0x3000, 0x3000)]

/-- Whether a character is a blank. -/
def isBlank (c : Char) : Bool :=
  inRanges blankRanges c.toNat

/-! ## Trimming -/

/-- `text` without the characters of a class at its end. -/
def dropRightWhile (p : Char → Bool) (text : List Char) : List Char :=
  (text.reverse.dropWhile p).reverse

/-- `text` without the blanks at its two ends. -/
def trim (text : List Char) : List Char :=
  dropRightWhile isBlank (text.dropWhile isBlank)

/-- Whether a text has nothing but blanks. -/
def isBlankText (text : List Char) : Bool :=
  text.all isBlank

/-! ## Words -/

/-- The words of a text, where `word` has been read of the first one, last character first. -/
def wordsFrom (word : List Char) : List Char → List (List Char)
  | [] => if word.isEmpty then [] else [word.reverse]
  | c :: rest =>
    if isBlank c then
      if word.isEmpty then wordsFrom [] rest else word.reverse :: wordsFrom [] rest
    else wordsFrom (c :: word) rest

/-- The words of a text in their order. -/
def words (text : List Char) : List (List Char) :=
  wordsFrom [] text

/-! ## On strings -/

/-- A string without the blanks at its two ends. -/
def trimmed (s : String) : String :=
  String.ofList (trim s.toList)

/-- The words of a string. -/
def wordsOf (s : String) : List String :=
  (words s.toList).map String.ofList

/-- Whether a string has nothing but blanks. -/
def isBlankString (s : String) : Bool :=
  isBlankText s.toList

end CoverageDiff.Text
