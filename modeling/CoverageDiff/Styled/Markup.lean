import CoverageDiff.Styled.Emoji
import CoverageDiff.Styled.Style

/-!
# CoverageDiff.Styled.Markup

Texts with style tags.

1. A tag is a `[`, a small letter or one of `# / @`, and what follows up to
   the next `]`, with no `[` in between.
2. Backslashes before a tag stand for half their number; an odd one makes the
   tag plain text.  Elsewhere a backslash before `[` vanishes.
3. A tag that starts with `/` closes the innermost open tag of its name, or,
   without a name, the innermost open tag.  If there is none the text is
   refused.
4. Every other tag opens a style; one that describes none has no effect.  What
   follows an equals sign belongs to the description, but not to the name.
5. Names of emoji are replaced in every stretch of text by itself.
6. A tag that starts with `@` names a handler.  It has no effect here; that the
   parameters of a handler can be refused when it is closed is left out.
-/

namespace CoverageDiff.Styled

open Text

/-- A piece of text in one style. -/
structure Piece where
  /-- The characters. -/
  text : List Char
  /-- Their style. -/
  style : Style
  deriving DecidableEq

/-- A closing tag that closes nothing. -/
inductive MarkupError where
  /-- No open tag has this name. -/
  | noOpenTag (name : String)
  /-- No tag is open. -/
  | nothingOpen
  deriving DecidableEq

namespace MarkupError

/-- The wording of an error. -/
def message : MarkupError → String
  | noOpenTag name => "closing tag '[/" ++ name ++ "]' doesn't match any open tag"
  | nothingOpen => "closing tag '[/]' has nothing to close"

end MarkupError

/-! ## Tags and the text between them -/

/-- Plain text or a tag. -/
inductive Token where
  /-- Plain text. -/
  | text (cs : List Char)
  /-- A tag, without its brackets. -/
  | tag (cs : List Char)
  deriving DecidableEq

/-- What stands before the next `]`, and what follows it; no `[` may come first. -/
def upToBracket : List Char → Option (List Char × List Char)
  | [] => none
  | c :: rest =>
    if c = ']' then some ([], rest)
    else if c = '[' then none
    else (upToBracket rest).map fun (inside, after) => (c :: inside, after)

/-- Whether a tag can start with a character. -/
def startsTag (c : Char) : Bool :=
  ('a' ≤ c && c ≤ 'z') || c = '#' || c = '/' || c = '@'

/-- A tag at the start of a text, without its brackets, and the rest of the text. -/
def tagAt? : List Char → Option (List Char × List Char)
  | '[' :: c :: rest =>
    if startsTag c then (upToBracket rest).map fun (inside, after) => (c :: inside, after)
    else none
  | _ => none

theorem length_upToBracket {text inside after : List Char}
    (h : upToBracket text = some (inside, after)) : after.length < text.length := by
  induction text generalizing inside after with
  | nil => simp [upToBracket] at h
  | cons c rest ih =>
    by_cases h1 : c = ']'
    · simp [upToBracket, h1] at h
      simp [h.2]
    · by_cases h2 : c = '['
      · simp [upToBracket, h2] at h
      · simp only [upToBracket, h1, h2, if_false, Option.map_eq_some_iff] at h
        obtain ⟨⟨a, b⟩, hab, heq⟩ := h
        cases heq
        have := ih hab
        simp
        omega

theorem length_tagAt? {text inside after : List Char}
    (h : tagAt? text = some (inside, after)) : after.length < text.length := by
  unfold tagAt? at h
  split at h
  · split at h
    · simp only [Option.map_eq_some_iff] at h
      obtain ⟨⟨a, b⟩, hab, heq⟩ := h
      cases heq
      have := length_upToBracket hab
      simp
      omega
    · cases h
  · cases h

/-- A plain text as a token, nothing if it is empty. -/
def textToken (cs : List Char) : List Token :=
  if cs.isEmpty then [] else [.text cs]

/-- Plain text without the backslashes before `[`. -/
def dropEscapes : List Char → List Char
  | '\\' :: '[' :: rest => '[' :: dropEscapes rest
  | c :: rest => c :: dropEscapes rest
  | [] => []

/-- The backslashes at the start of a text. -/
def leadingSlashes (text : List Char) : Nat :=
  (text.takeWhile (· == '\\')).length

/-- The tokens of a text, where `plain` precedes it, last character first. -/
def tokensFrom (plain : List Char) (text : List Char) : List Token :=
  match _hs : text with
  | [] => textToken (dropEscapes plain.reverse)
  | c :: rest =>
    let slashes := leadingSlashes text
    match h : tagAt? (text.drop slashes) with
    | some (tag, after) =>
      textToken (dropEscapes plain.reverse)
        ++ textToken (List.replicate (slashes / 2) '\\')
        ++ (if slashes % 2 = 1 then [.text ('[' :: tag ++ [']'])] else [.tag tag])
        ++ tokensFrom [] after
    | none => tokensFrom (c :: plain) rest
termination_by text.length
decreasing_by
  · have := length_tagAt? h
    subst _hs
    simp only [List.length_drop] at this
    omega
  · subst _hs
    simp

/-- Neighbouring texts as one. -/
def joinTexts : List Token → List Token
  | .text a :: rest =>
    match joinTexts rest with
    | .text b :: rest' => .text (a ++ b) :: rest'
    | rest' => .text a :: rest'
  | .tag t :: rest => .tag t :: joinTexts rest
  | [] => []

/-- The token with names of emoji replaced. -/
def Token.withEmoji : Token → Token
  | text cs => text (Emoji.replaceCodes cs)
  | tag cs => tag cs

/-- The tokens of a text: tags, and between them at most one text. -/
def tokens (text : List Char) : List Token :=
  joinTexts ((tokensFrom [] text).map Token.withEmoji)

/-! ## Styles -/

/-- An open tag: its normal name and its style. -/
structure OpenTag where
  /-- The name a closing tag refers to. -/
  name : String
  /-- The style it gives. -/
  style : Style

/-- The name of a tag, without a parameter. -/
def tagName (tag : List Char) : List Char :=
  tag.takeWhile (· != '=')

/-- The parameter of a tag: what follows the first equals sign. -/
def tagParameter (tag : List Char) : List Char :=
  (tag.dropWhile (· != '=')).drop 1

/-- What an opening tag opens. -/
def OpenTag.ofTag (tag : List Char) : OpenTag :=
  let name := Style.normalName (tagName tag)
  ⟨name, (Style.ofText? (name.toList ++ ' ' :: tagParameter tag)).getD {}⟩

/-- The open tags, innermost first, after a tag. -/
def step (opened : List OpenTag) (tag : List Char) : Except MarkupError (List OpenTag) :=
  match tagName tag with
  | '/' :: closing =>
    if isBlankText closing then
      match opened with
      | [] => .error .nothingOpen
      | _ :: rest => .ok rest
    else
      let name := Style.normalName (trim closing)
      if opened.any fun t => t.name == name then .ok (opened.eraseP fun t => t.name == name)
      else .error (.noOpenTag name)
  | _ => .ok (.ofTag tag :: opened)

/-- The style inside all open tags. -/
def styleOf (opened : List OpenTag) : Style :=
  opened.foldr (fun t s => s.within t.style) {}

/-- The pieces of a list of tokens. -/
def piecesFrom (opened : List OpenTag) : List Token → Except MarkupError (List Piece)
  | [] => .ok []
  | .text cs :: rest => (piecesFrom opened rest).map (⟨cs, styleOf opened⟩ :: ·)
  | .tag cs :: rest =>
    match step opened cs with
    | .ok opened => piecesFrom opened rest
    | .error e => .error e

/-- The pieces of a text with style tags. -/
def pieces? (text : List Char) : Except MarkupError (List Piece) :=
  piecesFrom [] (tokens text)

end CoverageDiff.Styled
