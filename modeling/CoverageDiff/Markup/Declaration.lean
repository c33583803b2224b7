import CoverageDiff.Markup.Scan

/-!
# CoverageDiff.Markup.Declaration

The declarations in a document type.

1. What follows the keyword of a declaration is cut into pieces: names, words
   after `#`, quoted texts, brackets and separators.  Names, quoted texts and
   closing brackets need something after them that ends them.
2. The pieces of each kind of declaration have a grammar.  A declaration that
   does not follow it makes the document malformed, whether or not anything
   comes of it.
3. Only attributes and entities matter to what a document is: an attribute may
   get a type and a default, and entities are refused.
4. The default of an attribute and a new value for a predefined entity are kept
   as they stand; whether they are sound is asked only while declarations
   count.
-/

namespace CoverageDiff.Markup

open Text

/-- A declaration of the document type. -/
inductive Declaration where
  /-- The type of an attribute: whether blanks separate its parts, and its default. -/
  | attribute (element name : String) (tokens : Bool) (default : Option (List Char))
  /-- A reference to declarations elsewhere. -/
  | elsewhere
  | entity
  /-- A value for an entity whose name is predefined, which declares nothing new. -/
  | predefined (value : List Char)
  deriving DecidableEq

/-! ## Pieces -/

/-- A piece of a declaration. -/
inductive Piece where
  /-- A name without colon. -/
  | name (s : String)
  /-- A name with a prefix. -/
  | prefixed (s : String)
  /-- Characters of names that do not make a name. -/
  | token
  /-- A name with `?`, `*` or `+` right after it. -/
  | signed
  /-- A name right after `#`. -/
  | hash (s : String)
  /-- A text in quotes. -/
  | literal (text : List Char)
  | percent
  | bar
  | comma
  | openGroup
  /-- A closing bracket and the sign right after it, if there is one. -/
  | closeGroup (sign : Option Char)
  deriving DecidableEq

/-- Whether a character says how often something may occur. -/
def isSign (c : Char) : Bool :=
  c = '?' || c = '*' || c = '+'

/-- Whether a character ends the piece before it. -/
def endsPiece (c : Char) : Bool :=
  isSpace c || c = '>' || c = ')' || c = ',' || c = '|' || c = '['

/-- A text, if the piece before it ends there. -/
def ended? : List Char → Option (List Char)
  | c :: cs => if endsPiece c then some (c :: cs) else none
  | [] => none

/-- What characters of names and colons make: a colon can only separate a prefix. -/
def wordPiece (word : List Char) : Piece :=
  match word.takeWhile isNameChar, word.dropWhile isNameChar with
  | c :: _, [] => if isNameStart c then .name (String.ofList word) else .token
  | c :: _, ':' :: d :: ds =>
    if isNameStart c && (d :: ds).all isNameChar then .prefixed (String.ofList word) else .token
  | _, _ => .token

/-- The characters of names and colons at the start of a text, and the rest of the text. -/
def word? (text : List Char) : Option (Piece × List Char) :=
  let isPart := fun c => isNameChar c || c = ':'
  match text.takeWhile isPart, text.dropWhile isPart with
  | [], _ => none
  | c :: cs, more =>
    match wordPiece (c :: cs), more with
    | .token, _ => (ended? more).map (.token, ·)
    | p, d :: left => if isSign d then some (.signed, left) else (ended? (d :: left)).map (p, ·)
    | _, [] => none

/-- The piece at the start of a text, and the rest of the text. -/
def piece? (text : List Char) : Option (Piece × List Char) :=
  match text with
  | '|' :: cs => some (.bar, cs)
  | ',' :: cs => some (.comma, cs)
  | '(' :: cs => some (.openGroup, cs)
  | ')' :: c :: cs =>
    if isSign c then some (.closeGroup (some c), cs)
    else (ended? (c :: cs)).map (.closeGroup none, ·)
  | '%' :: cs => (space? cs).map (.percent, ·)
  | '#' :: cs => do
    let (word, more) ← name? cs
    return (.hash (String.ofList word), ← ended? more)
  | _ =>
    match quoted? text with
    | some (inside, more) => (ended? more).map (.literal inside, ·)
    | none => word? text

/-- The pieces up to a closing angle bracket or an opening square one, and the text from there. -/
def pieces? (text : List Char) : Option (List Piece × List Char) :=
  match text with
  | [] => none
  | c :: cs =>
    if c = '>' || c = '[' then some ([], c :: cs)
    else if isSpace c then pieces? cs
    else
      match piece? (c :: cs) with
      | some (p, more) => (pieces? (rest cs more)).map fun (ps, left) => (p :: ps, left)
      | none => none
termination_by text.length
decreasing_by
  · simp
  · have := length_rest_le cs more
    simp
    omega

/-! ## Places elsewhere -/

/-- Whether a character may occur in a public identifier. -/
def isPublicIdChar (c : Char) : Bool :=
  ('a' ≤ c && c ≤ 'z') || ('A' ≤ c && c ≤ 'Z') || ('0' ≤ c && c ≤ '9')
    || " \r\n-'()+,./:=?;!*#@$_%".contains c

/-- The place of something that stands elsewhere, and the pieces after it. -/
def place? : List Piece → Option (List Piece)
  | .name "SYSTEM" :: .literal _ :: ps => some ps
  | .name "PUBLIC" :: .literal id :: .literal _ :: ps =>
    if id.all isPublicIdChar then some ps else none
  | _ => none

/-! ## Elements -/

/-- Whether pieces complete the children of an element.  `groups` are the separators that the
open groups have used, innermost first; `wanted` says that a name or a group must come next. -/
def completesChildren (groups : List (Option Piece)) (wanted : Bool) : List Piece → Bool
  | [] => groups.isEmpty && !wanted
  | p :: ps =>
    match wanted, p, groups with
    | true, .openGroup, _ => completesChildren (none :: groups) true ps
    | true, .name _, _ | true, .prefixed _, _ | true, .signed, _ =>
      completesChildren groups false ps
    | false, .closeGroup _, _ :: outer => completesChildren outer false ps
    | false, .bar, used :: outer =>
      used.all (· = .bar) && completesChildren (some .bar :: outer) true ps
    | false, .comma, used :: outer =>
      used.all (· = .comma) && completesChildren (some .comma :: outer) true ps
    | _, _, _ => false

/-- Whether pieces complete the names of elements that may stand between text. -/
def completesMixed : List Piece → Bool
  | [.closeGroup (some '*')] => true
  | .bar :: .name _ :: ps | .bar :: .prefixed _ :: ps => completesMixed ps
  | _ => false

/-- Whether pieces say what an element may contain. -/
def isContent : List Piece → Bool
  | [.name "EMPTY"] | [.name "ANY"] => true
  | [.openGroup, .hash "PCDATA", .closeGroup none] => true
  | .openGroup :: .hash "PCDATA" :: ps => completesMixed ps
  | .openGroup :: ps => completesChildren [none] true ps
  | _ => false

/-! ## Attributes -/

/-- The pieces after a list of alternatives, each of them an `item`. -/
def alternatives? (item : Piece → Bool) : List Piece → Option (List Piece)
  | p :: .bar :: ps => if item p then alternatives? item ps else none
  | p :: .closeGroup none :: ps => if item p then some ps else none
  | _ => none

/-- Whether a piece may be one of the values of an attribute. -/
def isAlternative : Piece → Bool
  | .name _ | .prefixed _ | .token => true
  | _ => false

/-- Whether a piece may be a notation. -/
def isNotation : Piece → Bool
  | .name _ => true
  | _ => false

/-- The type of an attribute: whether blanks separate its parts, and the pieces after it. -/
def attributeType? : List Piece → Option (Bool × List Piece)
  | .name "CDATA" :: ps => some (false, ps)
  | .name "NOTATION" :: .openGroup :: ps => (alternatives? isNotation ps).map (true, ·)
  | .openGroup :: ps => (alternatives? isAlternative ps).map (true, ·)
  | .name s :: ps =>
    if ["ID", "IDREF", "IDREFS", "ENTITY", "ENTITIES", "NMTOKEN", "NMTOKENS"].contains s then
      some (true, ps)
    else none
  | _ => none

/-- The default of an attribute, and the pieces after it. -/
def attributeDefault? : List Piece → Option (Option (List Char) × List Piece)
  | .hash "REQUIRED" :: ps | .hash "IMPLIED" :: ps => some (none, ps)
  | .hash "FIXED" :: .literal text :: ps | .literal text :: ps => some (some text, ps)
  | _ => none

/-- A name that may have a prefix, and the pieces after it. -/
def namePiece? : List Piece → Option (String × List Piece)
  | .name s :: ps | .prefixed s :: ps => some (s, ps)
  | _ => none

/-- One attribute of an element, and the pieces after it. -/
def attributeDeclaration? (element : String) (pieces : List Piece) :
    Option (Declaration × List Piece) := do
  let (name, ps) ← namePiece? pieces
  let (tokens, ps) ← attributeType? ps
  let (default, ps) ← attributeDefault? ps
  return (.attribute element name tokens default, ps)

/-- The attributes of an element. -/
def attributeList? (element : String) (pieces : List Piece) : Option (List Declaration) :=
  match pieces with
  | [] => some []
  | p :: ps =>
    match attributeDeclaration? element (p :: ps) with
    | some (d, more) => (attributeList? element (rest ps more)).map (d :: ·)
    | none => none
termination_by pieces.length
decreasing_by
  have := length_rest_le ps more
  simp
  omega

/-! ## Entities and notations -/

/-- What the pieces of an entity declare. -/
def entity? : List Piece → Option (List Declaration)
  | [.percent, .name _, .literal _] => some [.entity]
  | .percent :: .name _ :: ps => if place? ps = some [] then some [.entity] else none
  | .name s :: ps =>
    let isPredefined := (predefined.lookup s).isSome
    match ps, place? ps with
    | [.literal text], _ => some (if isPredefined then [.predefined text] else [.entity])
    | _, some [] | _, some [.name "NDATA", .name _] =>
      some (if isPredefined then [] else [.entity])
    | _, _ => none
  | _ => none

/-- Whether the value of an entity is sound; nothing declared elsewhere may occur in it. -/
def valueIsSound (text : List Char) : Bool :=
  match text with
  | [] => true
  | c :: cs =>
    if c = '%' then false
    else if c = '&' then
      match reference? cs with
      | some (_, more) => valueIsSound (rest cs more)
      | none => false
    else valueIsSound cs
termination_by text.length
decreasing_by
  · have := length_rest_le cs more
    simp
    omega
  · simp

/-- Whether pieces declare a notation; it may do without a place. -/
def isNotationDeclaration : List Piece → Bool
  | [.name _, .name "PUBLIC", .literal id] => id.all isPublicIdChar
  | .name _ :: ps => place? ps == some []
  | _ => false

/-! ## All declarations -/

/-- What the pieces after a keyword declare. -/
def ofPieces? (keyword : String) (pieces : List Piece) : Option (List Declaration) :=
  match keyword with
  | "ATTLIST" => do
    let (element, ps) ← namePiece? pieces
    attributeList? element ps
  | "ENTITY" => entity? pieces
  | "ELEMENT" => do
    let (_, ps) ← namePiece? pieces
    if isContent ps then some [] else none
  | "NOTATION" => if isNotationDeclaration pieces then some [] else none
  | _ => none

/-- A declaration after its opening bracket, and the rest of the text. -/
def declaration? (text : List Char) : Option (List Declaration × List Char) := do
  let (keyword, more) ← name? text
  let (pieces, more) ← pieces? (← space? more)
  return (← ofPieces? (String.ofList keyword) pieces, ← after? ['>'] more)

end CoverageDiff.Markup
