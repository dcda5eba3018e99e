import ConfigKeeper.Display.Message
import ConfigKeeper.Display.Wrap

namespace ConfigKeeper.Display

open Text (width)

structure Row where
  key : String
  description : String
  deriving DecidableEq, Repr

def descriptionColumns : Nat := 43

abbrev Cell := List (List Char)

def cell (text : List Char) : Cell := text.splitOn '\n'

/-- A description is broken into lines only if it is too wide as it stands. -/
def descriptionCell (text : List Char) : Cell :=
  if (cell text).any fun line ↦ descriptionColumns < width line then
    (wrapped descriptionColumns text).flatMap cell
  else cell text

def cellWidth (c : Cell) : Nat := (c.map width).foldl max 0

/-- The columns of several cells, one above the other. -/
def columns (cells : List Cell) : Nat := (cells.map cellWidth).foldl max 0

/-- The characters that draw one line of the frame. -/
structure Rule where
  left : Char
  cross : Char
  right : Char

def topRule : Rule := ⟨'┌', '┬', '┐'⟩

def middleRule : Rule := ⟨'├', '┼', '┤'⟩

def bottomRule : Rule := ⟨'└', '┴', '┘'⟩

namespace Rule

def text (r : Rule) (first second : Nat) : String :=
  String.ofList (r.left :: List.replicate (first + 2) '─' ++ r.cross ::
    List.replicate (second + 2) '─' ++ [r.right])

end Rule

/-- A line of a cell, with a blank on either side; only the text itself is coloured. -/
def cellLine (palette : Palette) (columns : Nat) (line : List Char) : String :=
  " " ++ styled palette ["34"] "39" (String.ofList line) ++
    String.ofList (List.replicate (columns - width line) ' ') ++ " "

def rowLines (palette : Palette) (first second : Nat) (key description : Cell) : List String :=
  (List.range (max key.length description.length)).map fun i ↦
    "│" ++ part palette first key[i]? ++ "│" ++ part palette second description[i]? ++ "│"
where
  /-- An empty line has no colour. -/
  part (palette : Palette) (columns : Nat) : Option (List Char) → String
    | some line => cellLine palette columns line
    | none => cellLine .plain columns []

def header : Row := ⟨"Key", "Description"⟩

def keyTable (palette : Palette) (rows : List Row) : String :=
  let cells := rows.map fun r ↦ (cell r.key.toList, descriptionCell r.description.toList)
  let head := (cell header.key.toList, descriptionCell header.description.toList)
  let first := columns (head.1 :: cells.map (·.1))
  let second := columns (head.2 :: cells.map (·.2))
  let body := cells.flatMap fun c ↦
    middleRule.text first second :: rowLines .plain first second c.1 c.2
  "\n".intercalate (topRule.text first second ::
    rowLines palette first second head.1 head.2 ++ body ++ [bottomRule.text first second])

end ConfigKeeper.Display
