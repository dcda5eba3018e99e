import ConfigKeeper.Yaml.Letter

namespace ConfigKeeper.Yaml

structure Cursor where
  rest : List Char
  index : Nat := 0
  line : Nat := 0
  column : Nat := 0

namespace Cursor

def peek (c : Cursor) : Option Char := c.rest.head?

def peekAt (c : Cursor) (n : Nat) : Option Char := c.rest[n]?

def sees (c : Cursor) (p : Char → Bool) : Bool := c.peek.any p

def seesOrEnds (c : Cursor) (p : Char → Bool) : Bool := c.peek.all p

def seesOrEndsAt (c : Cursor) (n : Nat) (p : Char → Bool) : Bool := (c.peekAt n).all p

def skip (c : Cursor) : Cursor :=
  { c with rest := c.rest.tail, index := c.index + 1, column := c.column + 1 }

def skipN (c : Cursor) : Nat → Cursor
  | 0 => c
  | n + 1 => c.skip.skipN n

def skipBreak (c : Cursor) : Cursor :=
  match c.rest with
  | '\r' :: '\n' :: r => { rest := r, index := c.index + 2, line := c.line + 1 }
  | _ :: r => { rest := r, index := c.index + 1, line := c.line + 1 }
  | [] => c

/-- What a line break stands for in a scalar: a line feed, or itself for the two separators. -/
def breakText (c : Cursor) : List Char :=
  match c.peek with
  | some x => if x == '\u2028' || x == '\u2029' then [x] else if isBreak x then ['\n'] else []
  | none => []

def takeWhile (c : Cursor) (p : Char → Bool) : List Char × Cursor :=
  let taken := c.rest.takeWhile p
  (taken, { c with
    rest := c.rest.dropWhile p, index := c.index + taken.length, column := c.column + taken.length })

def skipWhile (c : Cursor) (p : Char → Bool) : Cursor := (c.takeWhile p).2

def skipComment (c : Cursor) : Cursor :=
  if c.sees (· == '#') then c.skipWhile (!isBreak ·) else c

/-- Three dashes or three dots at the start of a line, standing alone. -/
def atDocumentMark (c : Cursor) : Bool :=
  c.column == 0 && c.seesOrEndsAt 3 isGap &&
    (c.rest.take 3 == ['-', '-', '-'] || c.rest.take 3 == ['.', '.', '.'])

end Cursor

/-- Blanks and line breaks between two parts of a scalar: the blanks before the first break, whether
there was a break, that break, and the later ones. -/
structure Gap where
  blanks : List Char := []
  broken : Bool := false
  first : List Char := []
  others : List Char := []

namespace Gap

def text (g : Gap) : List Char :=
  if !g.broken then g.blanks
  else if g.first == ['\n'] then (if g.others.isEmpty then [' '] else g.others)
  else g.first ++ g.others

/-- Reads on through blanks and breaks. `none` where a tab stands left of column `tabStop` after a
line break. -/
def scan (tabStop : Nat) : Nat → Gap → Cursor → Option (Gap × Cursor)
  | 0, g, c => some (g, c)
  | fuel + 1, g, c =>
    match c.peek with
    | none => some (g, c)
    | some x =>
      if isBlank x then
        if g.broken then
          if x == '\t' && c.column < tabStop then none else scan tabStop fuel g c.skip
        else scan tabStop fuel { g with blanks := g.blanks ++ [x] } c.skip
      else if isBreak x then
        if g.broken then
          scan tabStop fuel { g with others := g.others ++ c.breakText } c.skipBreak
        else scan tabStop fuel { g with broken := true, first := c.breakText } c.skipBreak
      else some (g, c)

end Gap

end ConfigKeeper.Yaml
