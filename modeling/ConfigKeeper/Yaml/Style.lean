import ConfigKeeper.Yaml.Scalar

namespace ConfigKeeper.Yaml

inductive Style
  | plain
  | single
  | double
  | literal
  deriving DecidableEq, Repr

namespace Style

def isPrintable (c : Char) : Bool :=
  let n := c.toNat
  n == 0x0A || (0x20 ≤ n && n ≤ 0x7E) || (0xA0 ≤ n && n ≤ 0xD7FF) ||
    (0xE000 ≤ n && n ≤ 0xFFFD && n != 0xFEFF) || 0x10000 ≤ n

def neighbours (before : Option Char) : List Char → List (Option Char × Char × Option Char)
  | [] => []
  | c :: cs => (before, c, cs.head?) :: neighbours (some c) cs

/-- The string would be taken for something with an indicator in it. -/
def hasIndicator (s : List Char) : Bool :=
  s.take 3 == ['-', '-', '-'] || s.take 3 == ['.', '.', '.'] ||
    (match s with
      | [] => false
      | c :: cs =>
        "#,[]{}&*!|>'\"%@`".toList.contains c || ("?:-".toList.contains c && cs.head?.all isGap)) ||
    (neighbours none s).any fun (before, c, after) ↦
      before.isSome && ((c == ':' && after.all isGap) || (c == '#' && before.any isGap))

def hasBreak (s : List Char) : Bool := s.any isBreak

def hasSpaceBreak (s : List Char) : Bool :=
  (neighbours none s).any fun (_, c, after) ↦ c == ' ' && after.any isBreak

def hasBreakSpace (s : List Char) : Bool :=
  (neighbours none s).any fun (_, c, after) ↦ isBreak c && after == some ' '

def plainAllowed (s : List Char) : Bool :=
  s.head? != some ' ' && s.getLast? != some ' ' && !hasBreak s && !hasIndicator s &&
    s.all isPrintable

def singleAllowed (s : List Char) : Bool :=
  !hasBreakSpace s && !hasSpaceBreak s && s.all isPrintable

def literalAllowed (s : List Char) : Bool :=
  s.getLast? != some ' ' && !hasSpaceBreak s && s.all isPrintable

/-- The style of a string. A key that ends before its colon in the same line, a `flat` one, is never
spread over lines. -/
def of (flat : Bool) (s : String) : Style :=
  let cs := s.toList
  if cs.contains '\n' then
    if literalAllowed cs && !flat then .literal else .double
  else if flat && hasBreak cs then .double
  else if !Scalar.isMistakable s && plainAllowed cs then .plain
  else if singleAllowed cs then .single
  else .double

end Style

end ConfigKeeper.Yaml
