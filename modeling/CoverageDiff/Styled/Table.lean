import CoverageDiff.Styled.Markup
import CoverageDiff.Text.CellWidth

/-!
# CoverageDiff.Styled.Table

Tables of styled cells in box-drawing lines.

1. A column is as wide as its widest line, header included; every cell has a
   blank on either side.
2. A cell with line ends takes several lines of its row.  The controls that
   would move the cursor are dropped, tabs go to the next multiple of eight.
3. A line that is wider than its column, which only tabs and foreign line
   separators bring about, is broken between words.
4. The header row is bold, its padding and filling included; in other rows
   only the pieces of a cell are painted.
-/

namespace CoverageDiff.Styled

open Text

/-! ## Lines of a cell -/

/-- Controls that are dropped from cells. -/
def isCursorControl (c : Char) : Bool :=
  [7, 8, 11, 12, 13].contains c.toNat

/-- Characters at which a width is measured anew. -/
def isLineSeparator (c : Char) : Bool :=
  [10, 28, 29, 30, 0x85, 0x2028, 0x2029].contains c.toNat

/-- The characters of a list of pieces. -/
def plainText (pieces : List Piece) : List Char :=
  pieces.flatMap Piece.text

/-- The pieces without cursor controls. -/
def dropControls (pieces : List Piece) : List Piece :=
  pieces.map fun p => { p with text := p.text.filter fun c => !isCursorControl c }

/-- The lines between separators. -/
def splitAtSeparators (isSeparator : Char → Bool) : List Char → List (List Char)
  | [] => [[]]
  | c :: rest =>
    if isSeparator c then [] :: splitAtSeparators isSeparator rest
    else
      match splitAtSeparators isSeparator rest with
      | line :: lines => (c :: line) :: lines
      | [] => [[c]]

/-- The width of a text: that of its widest line. -/
def textWidth (text : List Char) : Nat :=
  ((splitAtSeparators isLineSeparator text).map cellWidth).foldl max 0

/-- The first `n` characters of pieces, and the pieces after them. -/
def splitPieces : Nat → List Piece → List Piece × List Piece
  | _, [] => ([], [])
  | n, p :: rest =>
    if p.text.length ≤ n then
      let (front, back) := splitPieces (n - p.text.length) rest
      (p :: front, back)
    else ([{ p with text := p.text.take n }], { p with text := p.text.drop n } :: rest)

/-- Pieces cut into lines of the given lengths, a line end between two of them being dropped. -/
def cutLines : List Nat → List Piece → List (List Piece)
  | [], _ => []
  | [_], pieces => [pieces]
  | n :: lengths, pieces =>
    let (line, rest) := splitPieces n pieces
    line :: cutLines lengths (splitPieces 1 rest).2

/-- The lines of a cell. -/
def pieceLines (pieces : List Piece) : List (List Piece) :=
  cutLines ((splitAtSeparators (· == '\n') (plainText pieces)).map List.length) pieces

/-! ## Tabs and line breaks -/

/-- Text with its tabs filled up from a position, and the position after it. -/
def expandTabsText (position : Nat) : List Char → List Char × Nat
  | [] => ([], position)
  | c :: rest =>
    let (here, next) :=
      if c = '\t' then
        let stop := (position + 8) / 8 * 8
        (List.replicate (stop - position) ' ', stop)
      else ([c], position + charWidth c)
    let (after, final) := expandTabsText next rest
    (here ++ after, final)

/-- Pieces of a line with their tabs filled up. -/
def expandTabs (position : Nat) : List Piece → List Piece
  | [] => []
  | p :: rest =>
    let (text, next) := expandTabsText position p.text
    { p with text } :: expandTabs next rest

/-- A text as words, each with the blanks around it. -/
def spacedWords (word : List Char) (ended : Bool) : List Char → List (List Char)
  | [] => if word.all isBlank then [] else [word.reverse]
  | c :: rest =>
    if isBlank c then spacedWords (c :: word) (ended || !word.all isBlank) rest
    else if ended then word.reverse :: spacedWords [c] false rest
    else spacedWords (c :: word) false rest

/-- Where a line is broken to fit a width: `offset` cells are used, `start` characters are past. -/
def breakOffsets (width : Nat) : Nat → Nat → List (List Char) → List Nat
  | _, _, [] => []
  | offset, start, word :: rest =>
    let next := start + word.length
    if cellWidth (dropRightWhile isBlank word) ≤ width - offset then
      breakOffsets width (offset + cellWidth word) next rest
    else if start = 0 then breakOffsets width offset next rest
    else start :: breakOffsets width (cellWidth word) next rest

/-- Pieces cut at ascending offsets, `done` characters being past. -/
def cutAt (done : Nat) : List Nat → List Piece → List (List Piece)
  | [], pieces => [pieces]
  | offset :: offsets, pieces =>
    let (line, rest) := splitPieces (offset - done) pieces
    line :: cutAt offset offsets rest

/-- A line without the blanks at its end that exceed a width. -/
def dropExcess (width : Nat) (pieces : List Piece) : List Piece :=
  let text := plainText pieces
  let blanks := (text.reverse.takeWhile isBlank).length
  (splitPieces (text.length - min blanks (text.length - width)) pieces).1

/-- A line broken to fit a width. -/
def wrapLine (width : Nat) (line : List Piece) : List (List Piece) :=
  let line := expandTabs 0 line
  (cutAt 0 (breakOffsets width 0 0 (spacedWords [] false (plainText line))) line).map
    (dropExcess width)

/-! ## Tables -/

/-- A column of a table. -/
structure Column where
  /-- The title. -/
  header : String
  /-- Whether the cells stand at the right. -/
  alignRight : Bool := false

/-- A table: columns and rows of cells. -/
structure Table where
  columns : List Column
  /-- The rows, each with one cell for every column. -/
  rows : List (List (List Piece))

namespace Table

/-- The width of each column. -/
def widths (t : Table) : List Nat :=
  t.columns.mapIdx fun i column =>
    let cells := t.rows.map fun row => textWidth (plainText (row[i]?.getD []))
    cells.foldl max (textWidth column.header.toList)

/-- Blanks. -/
def blanks (n : Nat) : String :=
  String.ofList (List.replicate n ' ')

/-- A piece as it is written. -/
def pieceText (color : Bool) (p : Piece) : String :=
  if color then p.style.paint (String.ofList p.text) else String.ofList p.text

/-- A line of a cell, filled up to the width of its column. -/
def lineText (color : Bool) (width : Nat) (alignRight : Bool) (line : List Piece) : String :=
  let filling := blanks (width - cellWidth (plainText line))
  let text := String.join (line.map (pieceText color))
  " " ++ (if alignRight then filling ++ text else text ++ filling) ++ " "

/-- The lines of a cell. -/
def cellLines (color : Bool) (width : Nat) (alignRight : Bool) (cell : List Piece) : List String :=
  (pieceLines cell).flatMap fun line =>
    (wrapLine width line).map (lineText color width alignRight)

/-- The lines of a row. -/
def rowLines (color : Bool) (columns : List (Column × Nat)) (row : List (List Piece)) :
    List String :=
  let cells := (columns.zip row).map fun ((column, width), cell) =>
    (width, cellLines color width column.alignRight cell)
  let height := (cells.map fun c => c.2.length).foldl max 0
  (List.range height).map fun i =>
    "│" ++ "│".intercalate (cells.map fun (width, lines) =>
      (lines[i]?).getD (blanks (width + 2))) ++ "│"

/-- A title, filled up to the width of its column. -/
def titleText (color : Bool) (width : Nat) (column : Column) : String :=
  let filling := blanks (width - cellWidth column.header.toList)
  let text := if column.alignRight then filling ++ column.header else column.header ++ filling
  let paint := if color then Style.bold.paint else id
  paint " " ++ paint text ++ paint " "

/-- A line of the frame. -/
def rule (left bar join right : String) (widths : List Nat) : String :=
  left ++ join.intercalate (widths.map fun w => String.join (List.replicate (w + 2) bar)) ++ right

/-- The lines of a table. -/
def lines (color : Bool) (table : Table) : List String :=
  let t : Table := ⟨table.columns, table.rows.map (List.map dropControls)⟩
  let columns := t.columns.zip t.widths
  let header := "┃" ++ "┃".intercalate (columns.map fun (c, w) => titleText color w c) ++ "┃"
  [rule "┏" "━" "┳" "┓" t.widths, header, rule "┡" "━" "╇" "┩" t.widths]
    ++ t.rows.flatMap (rowLines color columns)
    ++ [rule "└" "─" "┴" "┘" t.widths]

/-- The lines of a table as one text without a final line end. -/
def render (color : Bool) (t : Table) : String :=
  "\n".intercalate (t.lines color)

end Table

end CoverageDiff.Styled
