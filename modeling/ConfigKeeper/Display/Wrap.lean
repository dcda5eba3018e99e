import ConfigKeeper.Text.Width

namespace ConfigKeeper.Display

open Text (charWidth width)

/-- Lines in the making: those that are done, the last one first, and the open one. -/
structure Wrapping where
  done : List (List Char) := []
  line : List Char := []
  /-- The next word begins a line. -/
  fresh : Bool := true
  deriving DecidableEq, Repr

def padded (columns : Nat) (line : List Char) : List Char :=
  line ++ List.replicate (columns - width line) ' '

namespace Wrapping

def endFull (columns : Nat) (w : Wrapping) : Wrapping :=
  if columns ≤ width w.line then ⟨w.line :: w.done, [], true⟩ else w

/-- Takes a character of a word that no line can hold. One that the rest of a line is too narrow for
is lost, and marks fill the line. -/
def char (columns : Nat) (w : Wrapping) (c : Char) : Wrapping :=
  let w := w.endFull columns
  let room := columns - width w.line
  let added := if charWidth c ≤ room then [c] else List.replicate room '\uFFFD'
  { w with line := w.line ++ added, fresh := false }.endFull columns

def blank (columns : Nat) (w : Wrapping) : Wrapping :=
  if !w.fresh && width w.line < columns then { w with line := w.line ++ [' '] } else w

def word (columns : Nat) (w : Wrapping) (word : List Char) : Wrapping :=
  let w := w.blank columns
  if width w.line + width word ≤ columns then { w with line := w.line ++ word, fresh := false }
  else if width word ≤ columns then ⟨padded columns w.line :: w.done, word, false⟩
  else word.foldl (char columns) w

def lines (columns : Nat) (w : Wrapping) : List (List Char) :=
  if width w.line = 0 then w.done.reverse else (padded columns w.line :: w.done).reverse

end Wrapping

def wrapped (columns : Nat) (text : List Char) : List (List Char) :=
  ((text.splitOn ' ').foldl (Wrapping.word columns) {}).lines columns

end ConfigKeeper.Display
