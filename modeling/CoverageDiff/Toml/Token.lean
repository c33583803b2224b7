import CoverageDiff.Text.Rest

/-!
# CoverageDiff.Toml.Token

Blanks, comments, texts and key paths of TOML documents.

1. Blanks are spaces and tabs.  A comment goes from a hash sign to the end of
   the line.
2. Control characters other than the tab stand neither in comments nor in
   texts; a text in triple quotes can hold line ends.
3. In a text between double quotes a backslash starts an escape; between
   single quotes everything stands for itself.
4. A text in triple quotes loses a line end right after the opening quotes,
   and can end with up to two quotes of its own.  Between triple double quotes
   a backslash before a line end takes away all blanks and line ends after it.
5. A key is a word of letters, digits, `_` and `-`, or a text; dots join keys
   to a path.
-/

namespace CoverageDiff.Toml

open Text

/-! ## Blanks and comments -/

/-- Whether a character is a blank within a line. -/
def isBlank (c : Char) : Bool :=
  c = ' ' || c = '\t'

/-- Whether a character is a control character that texts and comments cannot hold. -/
def isControl (c : Char) : Bool :=
  (c.toNat < 32 && c ≠ '\t') || c.toNat = 127

/-- The text after blanks at its start. -/
def skipBlanks (cs : List Char) : List Char :=
  cs.dropWhile isBlank

/-- The text after a comment at its start. -/
def skipComment? : List Char → Option (List Char)
  | '#' :: more =>
    if (more.takeWhile (· ≠ '\n')).any isControl then none
    else some (more.dropWhile (· ≠ '\n'))
  | cs => some cs

/-- Dropping elements from the front of a list does not make it longer. -/
theorem length_dropWhile_le {α : Type} (p : α → Bool) (xs : List α) :
    (xs.dropWhile p).length ≤ xs.length :=
  (List.dropWhile_sublist p).length_le

/-- The text after blanks, line ends and comments at its start. -/
def skipFiller? (cs : List Char) : Option (List Char) :=
  match cs with
  | [] => some []
  | '#' :: more =>
    if (more.takeWhile (· ≠ '\n')).any isControl then none
    else skipFiller? (more.dropWhile (· ≠ '\n'))
  | c :: more => if isBlank c || c = '\n' then skipFiller? more else some (c :: more)
termination_by cs.length
decreasing_by
  · exact Nat.lt_succ_of_le (length_dropWhile_le _ _)
  · simp

/-! ## Escapes -/

/-- The value of a hexadecimal digit. -/
def hexValue? (c : Char) : Option Nat :=
  if '0' ≤ c && c ≤ '9' then some (c.toNat - 48)
  else if 'a' ≤ c && c ≤ 'f' then some (c.toNat - 87)
  else if 'A' ≤ c && c ≤ 'F' then some (c.toNat - 55)
  else none

/-- The number that hexadecimal digits stand for. -/
def hexNumber? (digits : List Char) : Option Nat :=
  digits.foldlM (fun n c => (hexValue? c).map fun d => 16 * n + d) 0

/-- The character with the code point of `width` hexadecimal digits. -/
def codePoint? (width : Nat) (cs : List Char) : Option (Char × List Char) :=
  if cs.length < width then none
  else
    match hexNumber? (cs.take width) with
    | some n => if n.isValidChar then some (Char.ofNat n, cs.drop width) else none
    | none => none

/-- The character that an escape stands for, after its backslash. -/
def escape? : List Char → Option (Char × List Char)
  | 'b' :: more => some ('\x08', more)
  | 't' :: more => some ('\t', more)
  | 'n' :: more => some ('\n', more)
  | 'f' :: more => some ('\x0c', more)
  | 'r' :: more => some ('\r', more)
  | '"' :: more => some ('"', more)
  | '\\' :: more => some ('\\', more)
  | 'u' :: more => codePoint? 4 more
  | 'U' :: more => codePoint? 8 more
  | _ => none

/-! ## Texts in one line -/

/-- The rest of a text between double quotes. -/
def escapedText? (cs : List Char) : Option (List Char × List Char) :=
  match cs with
  | [] => none
  | '"' :: more => some ([], more)
  | '\\' :: more =>
    match escape? more with
    | none => none
    | some (c, left) => (escapedText? (rest more left)).map fun (s, left) => (c :: s, left)
  | c :: more =>
    if isControl c then none else (escapedText? more).map fun (s, left) => (c :: s, left)
termination_by cs.length
decreasing_by
  · exact Nat.lt_succ_of_le (length_rest_le _ _)
  · simp

/-- The rest of a text between single quotes. -/
def literalText? : List Char → Option (List Char × List Char)
  | [] => none
  | '\'' :: more => some ([], more)
  | c :: more =>
    if isControl c then none else (literalText? more).map fun (s, left) => (c :: s, left)

/-! ## Texts in triple quotes -/

/-- Up to two more quotes after the closing ones. -/
def extraQuotes (quote : Char) : List Char → List Char × List Char
  | a :: b :: more =>
    if a = quote && b = quote then ([a, b], more)
    else if a = quote then ([a], b :: more)
    else ([], a :: b :: more)
  | [a] => if a = quote then ([a], []) else ([], [a])
  | [] => ([], [])

/-- The text without a line end at its start. -/
def skipLineEnd : List Char → List Char
  | '\n' :: more => more
  | cs => cs

/-- What follows a backslash that joins lines: blanks, a line end, and more of both. -/
def joinLines? (cs : List Char) : Option (List Char) :=
  match skipBlanks cs with
  | '\n' :: more => some (more.dropWhile fun c => isBlank c || c = '\n')
  | _ => none

/-- What follows a backslash between triple double quotes: nothing or a character. -/
def longEscape? (cs : List Char) : Option (List Char × List Char) :=
  match joinLines? cs with
  | some left => some ([], left)
  | none => (escape? cs).map fun (c, left) => ([c], left)

/-- The rest of a text between triple double quotes. -/
def longEscapedText? (cs : List Char) : Option (List Char × List Char) :=
  match cs with
  | [] => none
  | '"' :: '"' :: '"' :: more => some (extraQuotes '"' more)
  | '\\' :: more =>
    match longEscape? more with
    | none => none
    | some (s, left) => (longEscapedText? (rest more left)).map fun (s', left) => (s ++ s', left)
  | c :: more =>
    if isControl c && c ≠ '\n' then none
    else (longEscapedText? more).map fun (s, left) => (c :: s, left)
termination_by cs.length
decreasing_by
  · exact Nat.lt_succ_of_le (length_rest_le _ _)
  · simp

/-- The rest of a text between triple single quotes. -/
def longLiteralText? : List Char → Option (List Char × List Char)
  | [] => none
  | '\'' :: '\'' :: '\'' :: more => some (extraQuotes '\'' more)
  | c :: more =>
    if isControl c && c ≠ '\n' then none
    else (longLiteralText? more).map fun (s, left) => (c :: s, left)

/-- A text that is a value. -/
def text? : List Char → Option (List Char × List Char)
  | '"' :: '"' :: '"' :: more => longEscapedText? (skipLineEnd more)
  | '"' :: more => escapedText? more
  | '\'' :: '\'' :: '\'' :: more => longLiteralText? (skipLineEnd more)
  | '\'' :: more => literalText? more
  | _ => none

/-! ## Keys -/

/-- Whether a character stands in keys without quotes. -/
def isKeyChar (c : Char) : Bool :=
  c.isAlphanum || c = '-' || c = '_'

/-- A key. -/
def key? : List Char → Option (String × List Char)
  | '"' :: more => (escapedText? more).map fun (s, left) => (String.ofList s, left)
  | '\'' :: more => (literalText? more).map fun (s, left) => (String.ofList s, left)
  | cs =>
    if (cs.takeWhile isKeyChar).isEmpty then none
    else some (String.ofList (cs.takeWhile isKeyChar), cs.dropWhile isKeyChar)

/-- A path of keys, and what follows it and blanks. -/
def path? (cs : List Char) : Option (List String × List Char) :=
  match key? cs with
  | none => none
  | some (key, left) =>
    match _h : rest cs (skipBlanks left) with
    | '.' :: more =>
      (path? (rest more (skipBlanks more))).map fun (path, left) => (key :: path, left)
    | after => some ([key], after)
termination_by cs.length
decreasing_by
  exact length_rest_lt_of_rest_cons _h

end CoverageDiff.Toml
