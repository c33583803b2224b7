import CoverageDiff.Toml.Number
import CoverageDiff.Toml.Table

/-!
# CoverageDiff.Toml.Reader

TOML documents as tables.

1. A document is a sequence of lines: headings, pairs of key and value, or
   nothing; a comment can end each of them.
2. Lists can go over several lines, with comments, and can have a comma after
   the last value; tables in braces stand in one line and have no such comma.

Left out: there is no limit on how deep lists and tables may nest.
-/

namespace CoverageDiff.Toml

open Text

/-- A result, or that the text is malformed. -/
def orMalformed {α : Type} : Option α → Except ReadError α
  | some a => .ok a
  | none => .error .malformed

/-! ## Values -/

/-- A truth value. -/
def truth? : List Char → Option (Value × List Char)
  | 't' :: 'r' :: 'u' :: 'e' :: left => some (.truth true, left)
  | 'f' :: 'a' :: 'l' :: 's' :: 'e' :: left => some (.truth false, left)
  | _ => none

/-- A number, or a date or time. -/
def figure? (cs : List Char) : Except ReadError (Value × List Char) :=
  match moment? cs with
  | some (v, left) => v.map (·, left)
  | none =>
    match basedNumber? cs with
    | some (n, left) => .ok (.whole n, left)
    | none =>
      match decimalNumber? cs with
      | some (v, left) => v.map (·, left)
      | none => orMalformed (wordNumber? cs)

/-- A value that is neither a list nor a table. -/
def scalar? (cs : List Char) : Except ReadError (Value × List Char) :=
  if cs.head? = some '"' || cs.head? = some '\'' then
    orMalformed ((text? cs).map fun (s, left) => (.text (String.ofList s), left))
  else
    match truth? cs with
    | some result => .ok result
    | none => figure? cs

/-- The path of a key and what follows the equals sign after it. -/
def keyOfPair? (cs : List Char) : Option (List String × List Char) :=
  match path? cs with
  | some (path, '=' :: more) => some (path, skipBlanks more)
  | _ => none

mutual

/-- A value, and what follows it. -/
def value? (cs : List Char) : Except ReadError (Value × List Char) :=
  match cs with
  | '[' :: more => do
    let start ← orMalformed (skipFiller? more)
    let (values, left) ← elements? (rest more start)
    return (.list values, left)
  | '\x7b' :: more =>
    match skipBlanks more with
    | '\x7d' :: left => .ok (.table [], left)
    | start => do
      let (pairs, left) ← pairs? (rest more start)
      return (← orMalformed (tableOfPairs? pairs), left)
  | _ => scalar? cs
termination_by 2 * cs.length
decreasing_by
  · have := length_rest_le more start
    simp
    omega
  · have := length_rest_le more start
    simp
    omega

/-- The values of a list from one of them on, and what follows the list. -/
def elements? (cs : List Char) : Except ReadError (List Value × List Char) :=
  -- a list can end where a value could begin: when it is empty, or after a comma
  if cs.head? = some ']' then .ok ([], cs.tail)
  else do
    let (v, afterValue) ← value? cs
    let afterFiller ← orMalformed (skipFiller? afterValue)
    match _h : rest cs afterFiller with
    | ']' :: left => return ([v], left)
    | ',' :: more =>
      let start ← orMalformed (skipFiller? more)
      let (values, left) ← elements? (rest more start)
      return (v :: values, left)
    | _ => throw .malformed
termination_by 2 * cs.length + 1
decreasing_by
  · exact Nat.lt_succ_self _
  · have : (rest more start).length < cs.length := length_rest_lt_of_rest_cons _h
    omega

/-- The pairs of a table in braces from one of them on, and what follows the table. -/
def pairs? (cs : List Char) : Except ReadError (List (List String × Value) × List Char) := do
  let (path, start) ← orMalformed (keyOfPair? cs)
  let (v, afterValue) ← value? (rest cs start)
  match _h : rest cs (skipBlanks afterValue) with
  | '\x7d' :: left => return ([(path, v)], left)
  | ',' :: more =>
    let (pairs, left) ← pairs? (rest more (skipBlanks more))
    return ((path, v) :: pairs, left)
  | _ => throw .malformed
termination_by 2 * cs.length + 1
decreasing_by
  · have := length_rest_le cs start
    omega
  · have : (rest more (skipBlanks more)).length < cs.length := length_rest_lt_of_rest_cons _h
    omega

end

/-! ## Lines -/

/-- A heading after its opening brackets, and what follows the closing ones. -/
def heading? (closing : List Char) (cs : List Char) : Option (List String × List Char) :=
  match path? (skipBlanks cs) with
  | some (path, after) =>
    if closing.isPrefixOf after then some (path, after.drop closing.length) else none
  | none => none

/-- Whether a key can start with a character. -/
def startsKey (c : Char) : Bool :=
  isKeyChar c || c = '"' || c = '\''

/-- What a line states, if anything, and what follows it. -/
def statement? (cs : List Char) : Except ReadError (Option Statement × List Char) :=
  match cs with
  | '[' :: '[' :: more =>
    orMalformed ((heading? [']', ']'] more).map fun (path, left) =>
      (some (.listHeading path), left))
  | '[' :: more =>
    orMalformed ((heading? [']'] more).map fun (path, left) => (some (.heading path), left))
  | c :: _ =>
    if startsKey c then do
      let (path, start) ← orMalformed (keyOfPair? cs)
      let (v, left) ← value? start
      return (some (.pair path v), left)
    else .ok (none, cs)
  | [] => .ok (none, [])

/-- What a line states, if anything, and what follows it, up to the line end. -/
def line? (cs : List Char) : Except ReadError (Option Statement × List Char) := do
  let (s, left) ← statement? (skipBlanks cs)
  return (s, ← orMalformed (skipComment? (skipBlanks left)))

/-- The statements of a text. -/
def statements? (cs : List Char) : Except ReadError (List Statement) := do
  let (s, afterLine) ← line? cs
  match _h : rest cs afterLine with
  | [] => return s.toList
  | '\n' :: more => return s.toList ++ (← statements? more)
  | _ => throw .malformed
termination_by cs.length
decreasing_by
  exact length_lt_of_rest_cons _h

/-! ## Documents -/

/-- The table of a document, in which line feeds end the lines. -/
def read? (text : List Char) : Except ReadError (List (String × Value)) := do
  orMalformed (tableOfStatements? (← statements? text))

end CoverageDiff.Toml
