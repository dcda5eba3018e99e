import ConfigKeeper.Yaml.Cursor

namespace ConfigKeeper.Yaml.Plain

/-- The next run without blanks, newest character first. `none` where a colon in a flow collection
touches one of its indicators. -/
def word (flow : Bool) : Nat → List Char → Cursor → Option (List Char × Cursor)
  | 0, text, c => some (text, c)
  | fuel + 1, text, c =>
    match c.peek with
    | none => some (text, c)
    | some x =>
      if isGap x then some (text, c)
      else if flow && x == ':' && (c.peekAt 1).any (",?[]{}".toList.contains ·) then none
      else if (x == ':' && c.seesOrEndsAt 1 isGap) || (flow && ",[]{}".toList.contains x) then
        some (text, c)
      else word flow fuel (x :: text) c.skip

def scan (flow : Bool) (indent : Nat) :
    Nat → List Char → Gap → Cursor → Option (List Char × Bool × Cursor)
  | 0, text, gap, c => some (text, gap.broken, c)
  | fuel + 1, text, gap, c => do
    if c.atDocumentMark || c.sees (· == '#') then return (text, gap.broken, c)
    let (run, next) ← word flow (c.rest.length + 1) [] c
    if run.isEmpty then return (text, gap.broken, next)
    let text := text ++ gap.text ++ run.reverse
    if !next.sees isGap then return (text, false, next)
    let (gap, next) ← Gap.scan indent (next.rest.length + 1) {} next
    if !flow && next.column < indent then return (text, gap.broken, next)
    scan flow indent fuel text gap next

end ConfigKeeper.Yaml.Plain
