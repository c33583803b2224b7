import CoverageDiff.Styled.EmojiNames
import CoverageDiff.Text.Blank
import CoverageDiff.Text.Letters

/-!
# CoverageDiff.Styled.Emoji

Emoji that are written as a name between two colons.

1. A name is in letters of any case and has no blank; it ends at the next
   colon.  Between colons that enclose no name of an emoji the text stays,
   and so do the colons.
2. A tone of skin can follow a name that has such forms.
3. `-emoji` or `-text` at the end of a name asks for that form of the emoji.
-/

namespace CoverageDiff.Styled

open Text

namespace Emoji

/-! ## Names -/

/-- The tones of skin, the longer name before one that ends it. -/
def tones : List (String × Char) :=
  [("_medium-light_skin_tone", '🏼'), ("_medium-dark_skin_tone", '🏾'), ("_light_skin_tone", '🏻'),
    ("_medium_skin_tone", '🏽'), ("_dark_skin_tone", '🏿')]

/-- The text before an ending, if it has that ending. -/
def before? (ending : String) (name : List Char) : Option (List Char) :=
  let ending := ending.toList
  if ending.isSuffixOf name then some (name.take (name.length - ending.length)) else none

/-- The text after a beginning, if it has that beginning. -/
def after? (beginning : String) (name : List Char) : Option (List Char) :=
  let beginning := beginning.toList
  if beginning.isPrefixOf name then some (name.drop beginning.length) else none

/-- The letters in a block of code points where they stand in a row. -/
def lettersFrom (first : Nat) (letters : String) : List Char :=
  letters.toList.map fun c => Char.ofNat (first + (c.toNat - 'a'.toNat))

/-- A flag by the two letters of a land. -/
def landFlag (letters : String) : List Char :=
  lettersFrom 0x1f1e6 letters

/-- A flag by the letters of a region, which stand as tags after a black flag. -/
def regionFlag (letters : String) : List Char :=
  '🏴' :: lettersFrom 0xe0061 letters ++ [Char.ofNat 0xe007f]

/-- An emoji in a tone of skin; the tone takes the place of a sign for the emoji form. -/
def withTone (tone : Char) : List Char → List Char
  | c :: rest => c :: tone :: rest.dropWhile (· == '\ufe0f')
  | [] => []

/-- The emoji with a name that ends in a tone of skin. -/
def toned? (name : List Char) : Option (List Char) :=
  tones.findSome? fun (ending, tone) => do
    let base ← before? ending name
    return withTone tone (← tonedEmoji.lookup (String.ofList base)).toList

/-- The flag with a name. -/
def flag? (name : String) : Option (List Char) :=
  (landCodes.lookup name).map landFlag <|> (regionCodes.lookup name).map regionFlag

/-- The flag of a land with the words for a flag in front of its name. -/
def flagFor? (name : List Char) : Option (List Char) := do
  let land ← after? "flag_for_" name
  (landCodes.lookup (String.ofList land)).map landFlag

/-- The emoji with a name in small letters. -/
def ofName? (name : String) : Option (List Char) :=
  (untonedEmoji.lookup name).map String.toList <|> (tonedEmoji.lookup name).map String.toList
    <|> toned? name.toList <|> flag? name <|> flagFor? name.toList

/-! ## Codes -/

/-- The signs that ask for a form of an emoji, with the endings of names that stand for them. -/
def forms : List (String × Char) :=
  [("-emoji", '\ufe0f'), ("-text", '\ufe0e')]

/-- The emoji that stands for a name between colons. -/
def ofCode? (code : List Char) : Option (List Char) :=
  let form := forms.findSome? fun (ending, sign) => (before? ending code).map (·, [sign])
  let (name, signs) := form.getD (code, [])
  (ofName? (String.ofList (lower name))).map (· ++ signs)

/-- What stands before the next colon, and what follows it; no blank may come first. -/
def upToColon : List Char → Option (List Char × List Char)
  | [] => none
  | c :: rest =>
    if c = ':' then some ([], rest)
    else if isBlank c then none
    else (upToColon rest).map fun (code, after) => (c :: code, after)

theorem length_upToColon {text code after : List Char}
    (h : upToColon text = some (code, after)) : after.length < text.length := by
  induction text generalizing code after with
  | nil => simp [upToColon] at h
  | cons c rest ih =>
    by_cases h1 : c = ':'
    · simp [upToColon, h1] at h
      simp [h.2]
    · by_cases h2 : isBlank c
      · simp [upToColon, h1, h2] at h
      · simp only [upToColon, h1, h2, if_false, Bool.false_eq_true, Option.map_eq_some_iff] at h
        obtain ⟨⟨a, b⟩, hab, heq⟩ := h
        cases heq
        have := ih hab
        simp
        omega

/-- A text with its codes replaced. -/
def replaceCodes (text : List Char) : List Char :=
  match text with
  | [] => []
  | c :: rest =>
    if c = ':' then
      match h : upToColon rest with
      | some (code, after) =>
        have : after.length < rest.length := length_upToColon h
        (ofCode? code).getD (':' :: code ++ [':']) ++ replaceCodes after
      | none => ':' :: replaceCodes rest
    else c :: replaceCodes rest
termination_by text.length

end Emoji

end CoverageDiff.Styled
