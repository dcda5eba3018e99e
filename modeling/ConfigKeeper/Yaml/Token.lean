import ConfigKeeper.Yaml.Cursor

namespace ConfigKeeper.Yaml

/-- The end of the token list is the end of the document stream. -/
inductive Token
  | version (major minor : Nat)
  | tagShorthand (handle : String) (tail : List UInt8)
  | documentStart
  | documentEnd
  | blockSequence
  | blockMapping
  | blockEnd
  | flowSequence
  | flowSequenceEnd
  | flowMapping
  | flowMappingEnd
  | entry
  | flowEntry
  | key
  | value
  | alias (name : String)
  | anchor (name : String)
  | tag (handle : String) (tail : List UInt8)
  | scalar (plain : Bool) (text : String)
  deriving DecidableEq, Repr

namespace Token

def name? (c : Cursor) : Option (String × Cursor) :=
  let (name, next) := c.skip.takeWhile isNameChar
  if name.isEmpty then none
  else if next.seesOrEnds (fun x ↦ isGap x || "?:,]\x7d%@`".toList.contains x) then
    some (String.ofList name, next)
  else none

/-- The octets of one character in `%XX` notation; `due` counts those still expected. -/
def octets? : Nat → Option Nat → Cursor → Option (List UInt8 × Cursor)
  | 0, _, _ => none
  | fuel + 1, due, c =>
    match c.rest with
    | '%' :: a :: b :: _ => do
      let octet := (← hexDigit? a) * 16 + (← hexDigit? b)
      let due ← match due with
        | some n => if octet / 64 == 2 then some n else none
        | none =>
          if octet < 0x80 then some 1
          else if octet / 32 == 6 then some 2
          else if octet / 16 == 14 then some 3
          else if octet / 8 == 30 then some 4
          else none
      let next := c.skipN 3
      if due ≤ 1 then return ([octet.toUInt8], next)
      let (more, next) ← octets? fuel (some (due - 1)) next
      return (octet.toUInt8 :: more, next)
    | _ => none

def tagTail (verbatim : Bool) : Nat → Cursor → Option (List UInt8 × Cursor)
  | 0, c => some ([], c)
  | fuel + 1, c =>
    match c.peek with
    | some x =>
      if x == '%' then do
        let (here, next) ← octets? 4 none c
        let (more, next) ← tagTail verbatim fuel next
        return (here ++ more, next)
      else if isTagChar verbatim x then do
        let (more, next) ← tagTail verbatim fuel c.skip
        return (x.toNat.toUInt8 :: more, next)
      else some ([], c)
    | none => some ([], c)

def beforeZero (tail : List UInt8) : List UInt8 := tail.takeWhile (· != 0)

/-- Either `!` alone or a word between two of them; the second is missing where the word turns out to
belong to the tag itself. -/
def handle (c : Cursor) : List Char × Cursor :=
  let (word, next) := c.skip.takeWhile isNameChar
  if next.sees (· == '!') then ('!' :: word ++ ['!'], next.skip) else ('!' :: word, next)

def octetsOf (cs : List Char) : List UInt8 := cs.map (·.toNat.toUInt8)

def tag? (flow : Bool) (c : Cursor) : Option (Token × Cursor) := do
  let (token, next) ←
    if c.peekAt 1 == some '<' then do
      let (tail, next) ← tagTail true (c.rest.length + 1) (c.skipN 2)
      if tail.isEmpty || !next.sees (· == '>') then none
      pure (tag "" (beforeZero tail), next.skip)
    else do
      let (head, next) := handle c
      if head.length > 1 && head.getLast? == some '!' then
        let (tail, next) ← tagTail false (c.rest.length + 1) next
        if tail.isEmpty then none
        pure (tag (String.ofList head) (beforeZero tail), next)
      else
        let (tail, next) ← tagTail false (c.rest.length + 1) next
        let tail := beforeZero (octetsOf head.tail ++ tail)
        pure (if tail.isEmpty then tag "" (octetsOf ['!']) else tag "!" tail, next)
  if next.seesOrEnds isGap || (flow && next.sees (· == ',')) then some (token, next) else none

def decimal (digits : List Char) : Nat :=
  digits.foldl (fun n d ↦ n * 10 + (d.toNat - 48)) 0

def versionPart? (c : Cursor) : Option (Nat × Cursor) :=
  let (digits, next) := c.takeWhile (·.isDigit)
  if digits.isEmpty || digits.length > 9 then none else some (decimal digits, next)

def directive? (c : Cursor) : Option (Token × Cursor) := do
  let (name, next) := c.skip.takeWhile isNameChar
  if !next.seesOrEnds isGap then none
  let next := next.skipWhile isBlank
  let (token, next) ←
    if name == "YAML".toList then do
      let (major, next) ← versionPart? next
      if !next.sees (· == '.') then none
      let (minor, next) ← versionPart? next.skip
      pure (version major minor, next)
    else if name == "TAG".toList then do
      if !next.sees (· == '!') then none
      let (head, next) := handle next
      if head.length > 1 && head.getLast? != some '!' then none
      if !next.sees isBlank then none
      let (tail, next) ← tagTail true (c.rest.length + 1) (next.skipWhile isBlank)
      if tail.isEmpty || !next.seesOrEnds isGap then none
      pure (tagShorthand (String.ofList head) (beforeZero tail), next)
    else none
  let next := (next.skipWhile isBlank).skipComment
  if next.seesOrEnds isBreak then some (token, next.skipBreak) else none

end Token

end ConfigKeeper.Yaml
