import CoverageDiff.Markup.Declaration

/-!
# CoverageDiff.Markup.Token

The tags of a document and what stands between them.

1. A token is a tag, a run of text, a marked section, a comment, an
   instruction, the declaration that documents start with, or the document
   type.
2. What is not made of such tokens is no document.
-/

namespace CoverageDiff.Markup

open Text

/-! ## Tokens -/

/-- The document type. -/
structure Doctype where
  /-- Whether part of it is in another document. -/
  external : Bool
  /-- The declarations, in order. -/
  declarations : List Declaration
  deriving DecidableEq

/-- A token of a document. -/
inductive Token where
  /-- The declaration at the start. -/
  | declaration (encoding : Option String) (standalone : Bool)
  /-- The document type. -/
  | doctype (d : Doctype)
  /-- A start tag; `empty` if it is an end tag as well. -/
  | startTag (name : String) (attributes : List (String × List ValuePart)) (empty : Bool)
  | endTag (name : String)
  /-- White space. -/
  | space
  /-- Other text. -/
  | text
  /-- A comment or an instruction. -/
  | aside
  deriving DecidableEq

/-! ## Text -/

/-- Whether all references in a run of text have a meaning. -/
def textIsSound (text : List Char) : Bool :=
  match text with
  | [] => true
  | c :: cs =>
    if c = '&' then
      match reference? cs with
      | some (.reference _, more) => textIsSound (rest cs more)
      | _ => false
    else if (after? [']', ']', '>'] text).isSome then false
    else textIsSound cs
termination_by text.length
decreasing_by
  · have := length_rest_le cs more
    simp
    omega
  · simp

/-- A run of text up to the next tag. -/
def text? (text : List Char) : Option (Token × List Char) :=
  let run := text.takeWhile (· != '<')
  let token := if run.all isSpace then Token.space else .text
  if textIsSound run then some (token, text.drop run.length) else none

/-! ## Tags -/

/-- An attribute with its value, and the rest of the text. -/
def attribute? (text : List Char) : Option ((String × List ValuePart) × List Char) := do
  let (name, more) ← qualifiedName? text
  let value ← after? ['='] (skipSpace more)
  let (inside, left) ← quoted? (skipSpace value)
  return ((name, ← valueParts? inside), left)

/-- The end of a start tag: whether it is an end tag as well, and the rest of the text. -/
def tagEnd? : List Char → Option (Bool × List Char)
  | '>' :: cs => some (false, cs)
  | '/' :: '>' :: cs => some (true, cs)
  | _ => none

/-- The attributes of a start tag up to its end. -/
def attributes? (text : List Char) :
    Option (List (String × List ValuePart) × Bool × List Char) :=
  match text with
  | [] => none
  | c :: cs =>
    match tagEnd? (c :: cs) with
    | some (empty, more) => some ([], empty, more)
    | none =>
      if isSpace c then
        match attribute? (skipSpace cs) with
        | some (a, more) =>
          (attributes? (rest cs more)).map fun (as, empty, left) => (a :: as, empty, left)
        | none => (tagEnd? (skipSpace cs)).map fun (empty, more) => ([], empty, more)
      else none
termination_by text.length
decreasing_by
  have := length_rest_le cs more
  simp
  omega

/-- A start tag after its bracket. -/
def startTag? (text : List Char) : Option (Token × List Char) := do
  let (name, more) ← qualifiedName? text
  let (attributes, empty, left) ← attributes? more
  return (.startTag name attributes empty, left)

/-- An end tag after its slash. -/
def endTag? (text : List Char) : Option (Token × List Char) := do
  let (name, more) ← qualifiedName? text
  let left ← after? ['>'] (skipSpace more)
  return (.endTag name, left)

/-! ## Comments and instructions -/

/-- A comment after its opening; two hyphens may only stand at its end. -/
def comment? (text : List Char) : Option (Token × List Char) := do
  let (_, more) ← splitAtWord? ['-', '-'] text
  return (.aside, ← after? ['>'] more)

/-- The value of a part of the declaration at the start. -/
def declaredValue? (name : String) (text : List Char) : Option (String × List Char) := do
  let more ← afterWord? name text
  let value ← after? ['='] (skipSpace more)
  let (inside, left) ← quoted? (skipSpace value)
  let allowed := fun c : Char =>
    ('a' ≤ c && c ≤ 'z') || ('A' ≤ c && c ≤ 'Z') || ('0' ≤ c && c ≤ '9') || c = '.' || c = '-'
      || c = '_'
  if inside.all allowed then return (String.ofList inside, left) else none

/-- A part of the declaration that may be absent, after white space. -/
def optionalValue? (name : String) (text : List Char) : Option String × List Char :=
  match (space? text).bind (declaredValue? name) with
  | some (value, more) => (some value, more)
  | none => (none, text)

/-- Whether a text starts with an ASCII letter. -/
def startsWithLetter (s : String) : Bool :=
  match s.toList with
  | c :: _ => ('a' ≤ c && c ≤ 'z') || ('A' ≤ c && c ≤ 'Z')
  | [] => false

/-- The declaration at the start of a document, after its opening. -/
def xmlDeclaration? (text : List Char) : Option (Token × List Char) := do
  let (_, more) ← declaredValue? "version" (← space? text)
  let (encoding, more) := optionalValue? "encoding" more
  let (standalone, more) := optionalValue? "standalone" more
  let left ← afterWord? "?>" (skipSpace more)
  if encoding.all startsWithLetter && standalone.all fun s => s == "yes" || s == "no" then
    return (.declaration encoding (standalone == some "yes"), left)
  else none

/-- An instruction after its opening, or the declaration if its name says so. -/
def instruction? (text : List Char) : Option (Token × List Char) := do
  let (name, more) ← plainName? text
  if name = "xml" then xmlDeclaration? more
  else if name.toList.map Char.toLower = ['x', 'm', 'l'] then none
  else
    let body ← if (afterWord? "?>" more).isSome then some more else space? more
    let (_, left) ← splitAtWord? ['?', '>'] body
    return (.aside, left)

/-! ## Document type -/

/-- A reference to declarations elsewhere after its percent sign. -/
def elsewhere? (text : List Char) : Option (List Declaration × List Char) := do
  let (_, more) ← plainName? text
  return ([.elsewhere], ← after? [';'] more)

/-- What stands next in the document type. -/
def declarations? (text : List Char) : Option (List Declaration × List Char) :=
  match text with
  | '%' :: cs => elsewhere? cs
  | _ =>
    match afterWord? "<!--" text, afterWord? "<?" text with
    | some more, _ => (comment? more).map fun (_, left) => ([], left)
    | none, some more =>
      match instruction? more with
      | some (.aside, left) => some ([], left)
      | _ => none
    | none, none => do declaration? (← afterWord? "<!" text)

/-- The declarations up to the closing bracket. -/
def subset? (text : List Char) : Option (List Declaration × List Char) :=
  match text with
  | [] => none
  | c :: cs =>
    if c = ']' then some ([], cs)
    else if isSpace c then subset? cs
    else
      match declarations? (c :: cs) with
      | some (ds, more) => (subset? (rest cs more)).map fun (ds', left) => (ds ++ ds', left)
      | none => none
termination_by text.length
decreasing_by
  · simp
  · have := length_rest_le cs more
    simp
    omega

/-- Whether a part of the document type is in another document, as the pieces up to its
declarations say. -/
def external? (pieces : List Piece) : Option Bool := do
  let (_, ps) ← namePiece? pieces
  if ps.isEmpty then some false
  else if place? ps = some [] then some true
  else none

/-- The document type after its keyword. -/
def doctype? (text : List Char) : Option (Token × List Char) := do
  let (pieces, more) ← pieces? (← space? text)
  let external ← external? pieces
  match more with
  | '[' :: body =>
    let (declarations, more) ← subset? body
    return (.doctype ⟨external, declarations⟩, ← after? ['>'] (skipSpace more))
  | _ => return (.doctype ⟨external, []⟩, ← after? ['>'] more)

/-! ## All tokens -/

/-- The token at the start of a text, and the rest of the text. -/
def token? (text : List Char) : Option (Token × List Char) :=
  match text with
  | '<' :: '!' :: cs =>
    match afterWord? "--" cs, afterWord? "[CDATA[" cs with
    | some more, _ => comment? more
    | none, some more => (splitAtWord? [']', ']', '>'] more).map fun (_, left) => (.text, left)
    | none, none => do doctype? (← afterWord? "DOCTYPE" cs)
  | '<' :: '?' :: cs => instruction? cs
  | '<' :: '/' :: cs => endTag? cs
  | '<' :: cs => startTag? cs
  | _ => text? text

/-- The tokens of a document. -/
def tokens? (text : List Char) : Option (List Token) :=
  match text with
  | [] => some []
  | c :: cs =>
    match token? (c :: cs) with
    | some (t, more) => (tokens? (rest cs more)).map (t :: ·)
    | none => none
termination_by text.length
decreasing_by
  have := length_rest_le cs more
  simp
  omega

end CoverageDiff.Markup
