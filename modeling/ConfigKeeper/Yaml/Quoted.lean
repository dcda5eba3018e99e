import ConfigKeeper.Yaml.Cursor

namespace ConfigKeeper.Yaml.Quoted

def hexNumber (acc : Nat) : List Char → Option Nat
  | [] => some acc
  | x :: xs => do hexNumber (acc * 16 + (← hexDigit? x)) xs

def hexEscape (width : Nat) (c : Cursor) : Option (Char × Cursor) := do
  let digits := c.rest.take width
  if digits.length < width then none
  let n ← hexNumber 0 digits
  if (0xD800 ≤ n && n ≤ 0xDFFF) || 0x10FFFF < n then none
  some (Char.ofNat n, c.skipN width)

def simpleEscape? : Char → Option Char
  | '0' => some '\x00'
  | 'a' => some '\x07'
  | 'b' => some '\x08'
  | 't' => some '\t'
  | '\t' => some '\t'
  | 'n' => some '\n'
  | 'v' => some '\x0b'
  | 'f' => some '\x0c'
  | 'r' => some '\r'
  | 'e' => some '\x1b'
  | ' ' => some ' '
  | '"' => some '"'
  | '/' => some '/'
  | '\\' => some '\\'
  | 'N' => some '\u0085'
  | '_' => some '\u00a0'
  | 'L' => some '\u2028'
  | 'P' => some '\u2029'
  | _ => none

def escape (c : Cursor) : Option (Char × Cursor) := do
  match ← c.peek with
  | 'x' => hexEscape 2 c.skip
  | 'u' => hexEscape 4 c.skip
  | 'U' => hexEscape 8 c.skip
  | x => do some (← simpleEscape? x, c.skip)

/-- The next run without blanks, newest character first, and whether an escaped line break ended
it. -/
def word (quote : Char) : Nat → List Char → Cursor → Option (List Char × Bool × Cursor)
  | 0, _, _ => none
  | fuel + 1, text, c =>
    match c.peek with
    | none => some (text, false, c)
    | some x =>
      if isGap x then some (text, false, c)
      else if quote == '\'' && x == '\'' && c.peekAt 1 == some '\'' then
        word quote fuel ('\'' :: text) (c.skipN 2)
      else if x == quote then some (text, false, c)
      else if quote == '"' && x == '\\' then
        if (c.peekAt 1).any isBreak then some (text, true, c.skip.skipBreak)
        else do
          let (y, next) ← escape c.skip
          word quote fuel (y :: text) next
      else word quote fuel (x :: text) c.skip

def scan (quote : Char) : Nat → List Char → Cursor → Option (List Char × Cursor)
  | 0, _, _ => none
  | fuel + 1, text, c => do
    if c.atDocumentMark || c.rest.isEmpty then none
    let (run, joined, next) ← word quote (c.rest.length + 1) [] c
    let text := text ++ run.reverse
    if next.sees (· == quote) then return (text, next.skip)
    let (gap, next) ← Gap.scan 0 (next.rest.length + 1) { broken := joined } next
    scan quote fuel (text ++ gap.text) next

end ConfigKeeper.Yaml.Quoted
