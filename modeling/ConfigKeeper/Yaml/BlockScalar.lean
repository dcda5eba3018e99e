import ConfigKeeper.Yaml.Cursor

namespace ConfigKeeper.Yaml.BlockScalar

inductive Chomp
  | strip
  | clip
  | keep
  deriving DecidableEq

structure Header where
  chomp : Chomp := .clip
  increment : Option Nat := none

def chomp? : Char → Option Chomp
  | '+' => some .keep
  | '-' => some .strip
  | _ => none

def increment? (c : Cursor) : Option (Option Nat × Cursor) :=
  match c.peek with
  | some x =>
    if !x.isDigit then some (none, c)
    else if x == '0' then none
    else some (some (x.toNat - 48), c.skip)
  | none => some (none, c)

def header (c : Cursor) : Option (Header × Cursor) := do
  let (h, c) ← match c.peek.bind chomp? with
    | some chomp => do
      let (increment, c) ← increment? c.skip
      pure ({ chomp, increment : Header }, c)
    | none => do
      let (increment, c) ← increment? c
      match increment, c.peek.bind chomp? with
      | some _, some chomp => pure ({ chomp, increment : Header }, c.skip)
      | _, _ => pure ({ increment : Header }, c)
  let c := (c.skipWhile isBlank).skipComment
  if !c.seesOrEnds isBreak then none
  some (h, c.skipBreak)

/-- Empty lines up to the next line with content: their breaks, the deepest indentation seen, and
the place of the content. `none` where a tab stands in the indentation. -/
def emptyLines (indent : Option Nat) :
    Nat → List Char → Nat → Cursor → Option (List Char × Nat × Cursor)
  | 0, breaks, deepest, c => some (breaks, deepest, c)
  | fuel + 1, breaks, deepest, c =>
    let c := match indent with
      | none => c.skipWhile (· == ' ')
      | some n => c.skipN ((c.rest.take (n - c.column)).takeWhile (· == ' ')).length
    let deepest := max deepest c.column
    if indent.all (c.column < ·) && c.sees (· == '\t') then none
    else if c.sees isBreak then emptyLines indent fuel (breaks ++ c.breakText) deepest c.skipBreak
    else some (breaks, deepest, c)

/-- The lines of the scalar. `last` is the break that ended the line before, `breaks` those of the
empty lines after it, and `blank` tells that line began with a blank. -/
def lines (literal : Bool) (indent : Nat) :
    Nat → List Char → List Char → List Char → Bool → Cursor →
      Option (List Char × List Char × List Char × Cursor)
  | 0, text, last, breaks, _, c => some (text, last, breaks, c)
  | fuel + 1, text, last, breaks, blank, c => do
    if c.column != indent || c.rest.isEmpty then return (text, last, breaks, c)
    let nowBlank := c.sees isBlank
    let join :=
      if !literal && last == ['\n'] && !blank && !nowBlank then
        (if breaks.isEmpty then [' '] else [])
      else last
    let (run, next) := c.takeWhile (!isBreak ·)
    let text := text ++ join ++ breaks ++ run
    let last := next.breakText
    let (breaks, _, next') ← emptyLines (some indent) (next.rest.length + 1) [] 0 next.skipBreak
    lines literal indent fuel text last breaks nowBlank next'

def scan (literal : Bool) (parent : Option Nat) (c : Cursor) : Option (List Char × Cursor) := do
  let (h, c) ← header c
  let set := h.increment.map (parent.getD 0 + ·)
  let (breaks, deepest, c) ← emptyLines set (c.rest.length + 1) [] 0 c
  let least := parent.elim 0 (· + 1)
  let indent := set.getD (max (max deepest least) 1)
  let (text, last, breaks, c) ← lines literal indent (c.rest.length + 1) [] [] breaks false c
  let text := if h.chomp == .strip then text else text ++ last
  let text := if h.chomp == .keep then text ++ breaks else text
  some (text, c)

end ConfigKeeper.Yaml.BlockScalar
