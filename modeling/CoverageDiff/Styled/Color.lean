import CoverageDiff.Text.Numeral

/-!
# CoverageDiff.Styled.Color

Colours of terminal text.

1. A colour is given by a name, by its number in the palette of 256, or by the
   shares of red, green and blue.
2. Text is shown in one of sixteen colours; any other one is shown as the
   closest of these, the first one if two are equally close.
-/

namespace CoverageDiff

/-- A colour: how it was given, and its number among the sixteen. -/
structure Color where
  /-- The text that gives it. -/
  name : String
  /-- Its number; none stands for the colour that the terminal itself chooses. -/
  number : Option Nat
  deriving DecidableEq

namespace Color

open Text

/-! ## Names -/

/-- The eight plain colours. -/
def plainNames : List String :=
  ["black", "red", "green", "yellow", "blue", "magenta", "cyan", "white"]

/-- The sixteen colours, the bright ones last. -/
def names : List String :=
  plainNames ++ plainNames.map fun name => "bright_" ++ name

/-- Names of other colours of the palette of 256. -/
def paletteNames : List (String × Nat) :=
  [("gray0", 16), ("grey0", 16), ("navy_blue", 17), ("dark_blue", 18), ("blue3", 20),
    ("blue1", 21), ("dark_green", 22), ("deep_sky_blue4", 25), ("dodger_blue3", 26),
    ("dodger_blue2", 27), ("green4", 28), ("spring_green4", 29), ("turquoise4", 30),
    ("deep_sky_blue3", 32), ("dodger_blue1", 33), ("dark_cyan", 36), ("light_sea_green", 37),
    ("deep_sky_blue2", 38), ("deep_sky_blue1", 39), ("green3", 40), ("spring_green3", 41),
    ("cyan3", 43), ("dark_turquoise", 44), ("turquoise2", 45), ("green1", 46),
    ("spring_green2", 47), ("spring_green1", 48), ("medium_spring_green", 49), ("cyan2", 50),
    ("cyan1", 51), ("purple4", 55), ("purple3", 56), ("blue_violet", 57), ("gray37", 59),
    ("grey37", 59), ("medium_purple4", 60), ("slate_blue3", 62), ("royal_blue1", 63),
    ("chartreuse4", 64), ("pale_turquoise4", 66), ("steel_blue", 67), ("steel_blue3", 68),
    ("cornflower_blue", 69), ("dark_sea_green4", 71), ("cadet_blue", 73), ("sky_blue3", 74),
    ("chartreuse3", 76), ("sea_green3", 78), ("aquamarine3", 79), ("medium_turquoise", 80),
    ("steel_blue1", 81), ("sea_green2", 83), ("sea_green1", 85), ("dark_slate_gray2", 87),
    ("dark_red", 88), ("dark_magenta", 91), ("orange4", 94), ("light_pink4", 95), ("plum4", 96),
    ("medium_purple3", 98), ("slate_blue1", 99), ("wheat4", 101), ("gray53", 102), ("grey53", 102),
    ("light_slate_gray", 103), ("light_slate_grey", 103), ("medium_purple", 104),
    ("light_slate_blue", 105), ("yellow4", 106), ("dark_sea_green", 108), ("light_sky_blue3", 110),
    ("sky_blue2", 111), ("chartreuse2", 112), ("pale_green3", 114), ("dark_slate_gray3", 116),
    ("sky_blue1", 117), ("chartreuse1", 118), ("light_green", 120), ("aquamarine1", 122),
    ("dark_slate_gray1", 123), ("deep_pink4", 125), ("medium_violet_red", 126),
    ("dark_violet", 128), ("purple", 129), ("medium_orchid3", 133), ("medium_orchid", 134),
    ("dark_goldenrod", 136), ("rosy_brown", 138), ("gray63", 139), ("grey63", 139),
    ("medium_purple2", 140), ("medium_purple1", 141), ("dark_khaki", 143), ("navajo_white3", 144),
    ("gray69", 145), ("grey69", 145), ("light_steel_blue3", 146), ("light_steel_blue", 147),
    ("dark_olive_green3", 149), ("dark_sea_green3", 150), ("light_cyan3", 152),
    ("light_sky_blue1", 153), ("green_yellow", 154), ("dark_olive_green2", 155),
    ("pale_green1", 156), ("dark_sea_green2", 157), ("pale_turquoise1", 159), ("red3", 160),
    ("deep_pink3", 162), ("magenta3", 164), ("dark_orange3", 166), ("indian_red", 167),
    ("hot_pink3", 168), ("hot_pink2", 169), ("orchid", 170), ("orange3", 172),
    ("light_salmon3", 173), ("light_pink3", 174), ("pink3", 175), ("plum3", 176), ("violet", 177),
    ("gold3", 178), ("light_goldenrod3", 179), ("tan", 180), ("misty_rose3", 181),
    ("thistle3", 182), ("plum2", 183), ("yellow3", 184), ("khaki3", 185), ("light_yellow3", 187),
    ("gray84", 188), ("grey84", 188), ("light_steel_blue1", 189), ("yellow2", 190),
    ("dark_olive_green1", 192), ("dark_sea_green1", 193), ("honeydew2", 194), ("light_cyan1", 195),
    ("red1", 196), ("deep_pink2", 197), ("deep_pink1", 199), ("magenta2", 200), ("magenta1", 201),
    ("orange_red1", 202), ("indian_red1", 204), ("hot_pink", 206), ("medium_orchid1", 207),
    ("dark_orange", 208), ("salmon1", 209), ("light_coral", 210), ("pale_violet_red1", 211),
    ("orchid2", 212), ("orchid1", 213), ("orange1", 214), ("sandy_brown", 215),
    ("light_salmon1", 216), ("light_pink1", 217), ("pink1", 218), ("plum1", 219), ("gold1", 220),
    ("light_goldenrod2", 222), ("navajo_white1", 223), ("misty_rose1", 224), ("thistle1", 225),
    ("yellow1", 226), ("light_goldenrod1", 227), ("khaki1", 228), ("wheat1", 229),
    ("cornsilk1", 230), ("gray100", 231), ("grey100", 231), ("gray3", 232), ("grey3", 232),
    ("gray7", 233), ("grey7", 233), ("gray11", 234), ("grey11", 234), ("gray15", 235),
    ("grey15", 235), ("gray19", 236), ("grey19", 236), ("gray23", 237), ("grey23", 237),
    ("gray27", 238), ("grey27", 238), ("gray30", 239), ("grey30", 239), ("gray35", 240),
    ("grey35", 240), ("gray39", 241), ("grey39", 241), ("gray42", 242), ("grey42", 242),
    ("gray46", 243), ("grey46", 243), ("gray50", 244), ("grey50", 244), ("gray54", 245),
    ("grey54", 245), ("gray58", 246), ("grey58", 246), ("gray62", 247), ("grey62", 247),
    ("gray66", 248), ("grey66", 248), ("gray70", 249), ("grey70", 249), ("gray74", 250),
    ("grey74", 250), ("gray78", 251), ("grey78", 251), ("gray82", 252), ("grey82", 252),
    ("gray85", 253), ("grey85", 253), ("gray89", 254), ("grey89", 254), ("gray93", 255),
    ("grey93", 255)]

/-! ## The closest of sixteen -/

/-- Shares of red, green and blue, below 256. -/
structure Shares where
  /-- The share of red. -/
  red : Nat
  /-- The share of green. -/
  green : Nat
  /-- The share of blue. -/
  blue : Nat
  deriving DecidableEq

/-- The shares of the sixteen colours. -/
def standardShares : List Shares :=
  [⟨0, 0, 0⟩, ⟨170, 0, 0⟩, ⟨0, 170, 0⟩, ⟨170, 85, 0⟩, ⟨0, 0, 170⟩, ⟨170, 0, 170⟩, ⟨0, 170, 170⟩,
    ⟨170, 170, 170⟩, ⟨85, 85, 85⟩, ⟨255, 85, 85⟩, ⟨85, 255, 85⟩, ⟨255, 255, 85⟩, ⟨85, 85, 255⟩,
    ⟨255, 85, 255⟩, ⟨85, 255, 255⟩, ⟨255, 255, 255⟩]

/-- The shares of the colours from 16 to 255: a cube of six levels, and a row of greys. -/
def paletteShares (n : Nat) : Shares :=
  if n < 232 then
    let level (i : Nat) : Nat := if i = 0 then 0 else 55 + 40 * i
    ⟨level ((n - 16) / 36), level ((n - 16) / 6 % 6), level ((n - 16) % 6)⟩
  else
    let grey := 8 + 10 * (n - 232)
    ⟨grey, grey, grey⟩

/-- The square of the difference of two numbers. -/
def squareOfDifference (a b : Nat) : Nat :=
  (a - b + (b - a)) * (a - b + (b - a))

/-- How far two colours look apart; red counts more among light colours, blue among dark ones. -/
def distance (a b : Shares) : Nat :=
  let red := (a.red + b.red) / 2
  (512 + red) * squareOfDifference a.red b.red / 256 + 4 * squareOfDifference a.green b.green
    + (767 - red) * squareOfDifference a.blue b.blue / 256

/-- The first of the sixteen colours that none is closer than. -/
def closest (s : Shares) : Nat :=
  let distances := standardShares.map (distance s)
  distances.findIdx fun d => distances.all fun e => decide (d ≤ e)

/-! ## Reading -/

/-- The number in the palette of 256 as one of the sixteen. -/
def standardOf (n : Nat) : Nat :=
  if n < 16 then n else closest (paletteShares n)

/-- The value of a hexadecimal digit with a small letter. -/
def hexValue? (c : Char) : Option Nat :=
  if '0' ≤ c ∧ c ≤ '9' then some (c.toNat - '0'.toNat)
  else if 'a' ≤ c ∧ c ≤ 'f' then some (c.toNat - 'a'.toNat + 10)
  else none

/-- The shares that six hexadecimal digits give. -/
def hexShares? (text : List Char) : Option Shares := do
  match ← text.mapM hexValue? with
  | [a, b, c, d, e, f] => some ⟨16 * a + b, 16 * c + d, 16 * e + f⟩
  | _ => none

/-- What stands between a word with an opening parenthesis and a closing one at the end. -/
def argument? (word text : List Char) : Option (List Char) :=
  match text.reverse with
  | ')' :: inside =>
    if word.isPrefixOf inside.reverse then some (inside.reverse.drop word.length) else none
  | _ => none

/-- A number below 256 in digits alone. -/
def byte? (text : List Char) : Option Nat :=
  match takeDigits text with
  | ([], _) => none
  | (ds, []) => if !text.contains '_' && ofDigits ds < 256 then some (ofDigits ds) else none
  | _ => none

/-- The number in the palette that `color(…)` gives. -/
def paletteNumber? (text : List Char) : Option Nat := do
  let digits ← argument? "color(".toList text
  if digits.length ≤ 3 && digits.all Char.isDigit then byte? digits else none

/-- The texts between commas. -/
def betweenCommas : List Char → List (List Char)
  | [] => [[]]
  | c :: rest =>
    match betweenCommas rest with
    | part :: parts => if c = ',' then [] :: part :: parts else (c :: part) :: parts
    | [] => []

/-- The shares that `rgb(…)` gives. -/
def rgbShares? (text : List Char) : Option Shares := do
  match ← (betweenCommas (← argument? "rgb(".toList text)).mapM byte? with
  | [red, green, blue] => some ⟨red, green, blue⟩
  | _ => none

/-- The number among the sixteen that a word in small letters gives. -/
def numberOf? (word : String) : Option Nat :=
  match names.findIdx? fun name => name == word, paletteNames.lookup word with
  | some n, _ => some n
  | none, some n => some (standardOf n)
  | none, none =>
    match word.toList with
    | '#' :: digits => (hexShares? digits).map closest
    | text => (paletteNumber? text).map standardOf <|> (rgbShares? text).map closest

/-- The colour that a word in small letters gives. -/
def ofText? (word : String) : Option Color :=
  if word = "default" then some ⟨word, none⟩
  else (numberOf? word).map fun n => ⟨word, some n⟩

/-! ## Codes -/

/-- The code of a colour, counted from `plain`; the bright ones follow sixty later. -/
def code (plain : Nat) (c : Color) : String :=
  toString <| match c.number with
    | none => plain + 9
    | some n => if n < 8 then plain + n else plain + 52 + n

/-- The code for text. -/
def textCode (c : Color) : String := c.code 30

/-- The code for the background. -/
def backgroundCode (c : Color) : String := c.code 40

end Color

end CoverageDiff
