import ConfigKeeper.Yaml.Style

namespace ConfigKeeper.Yaml

inductive Tree
  | bool (b : Bool)
  | integer (n : Int)
  | string (s : String)
  | mapping (pairs : List (String × Tree))

namespace Tree

mutual

def toNode : Tree → Node
  | .bool b => .bool b
  | .integer n => .number (.integer n)
  | .string s => .string s
  | .mapping pairs => .mapping (toNodes pairs)

def toNodes : List (String × Tree) → List (Node × Node)
  | [] => []
  | p :: rest => (.string p.1, pairToNode p) :: toNodes rest

def pairToNode : String × Tree → Node
  | (_, t) => toNode t

end

mutual

def depth : Tree → Nat
  | .mapping pairs => depths pairs + 1
  | _ => 0

def depths : List (String × Tree) → Nat
  | [] => 0
  | p :: rest => max (pairDepth p) (depths rest)

def pairDepth : String × Tree → Nat
  | (_, t) => depth t

end

def spaces (n : Nat) : List Char := List.replicate n ' '

def hexDigits (width n : Nat) : List Char :=
  (List.range width).reverse.map fun i ↦ (Nat.digitChar (n / Nat.pow 16 i % 16)).toUpper

def escaped (c : Char) : List Char :=
  match c with
  | '\x00' => ['\\', '0']
  | '\x07' => ['\\', 'a']
  | '\x08' => ['\\', 'b']
  | '\t' => ['\\', 't']
  | '\n' => ['\\', 'n']
  | '\x0b' => ['\\', 'v']
  | '\x0c' => ['\\', 'f']
  | '\r' => ['\\', 'r']
  | '\x1b' => ['\\', 'e']
  | '"' => ['\\', '"']
  | '\\' => ['\\', '\\']
  | '\u0085' => ['\\', 'N']
  | '\u2028' => ['\\', 'L']
  | '\u2029' => ['\\', 'P']
  | c =>
    let n := c.toNat
    if Style.isPrintable c then [c]
    else if n ≤ 0xFF then '\\' :: 'x' :: hexDigits 2 n
    else if n ≤ 0xFFFF then '\\' :: 'u' :: hexDigits 4 n
    else '\\' :: 'U' :: hexDigits 8 n

def singleQuoted (indent : Nat) (broken : Bool) : List Char → List Char
  | [] => if broken then spaces indent else []
  | c :: cs =>
    if isBreak c then c :: singleQuoted indent true cs
    else
      (if broken then spaces indent else []) ++ (if c == '\'' then ['\'', '\''] else [c]) ++
        singleQuoted indent false cs

def literalLines (indent : Nat) (broken : Bool) : List Char → List Char
  | [] => []
  | c :: cs =>
    if isBreak c then c :: literalLines indent true cs
    else (if broken then spaces indent else []) ++ c :: literalLines indent false cs

/-- Behind `|`: the indentation, where the text does not show it, and how many of the breaks at the
end belong to the text. -/
def literalHints (s : List Char) : List Char :=
  (if s.head?.any fun c ↦ c == ' ' || isBreak c then ['2'] else []) ++
    match s.reverse with
    | c :: rest =>
      if !isBreak c then ['-'] else if rest.head?.all isBreak then ['+'] else []
    | [] => ['-']

def stringText (flat : Bool) (indent : Nat) (s : String) : List Char :=
  let cs := s.toList
  match Style.of flat s with
  | .plain => cs
  | .single => '\'' :: singleQuoted indent false cs ++ ['\'']
  | .double => '"' :: cs.flatMap escaped ++ ['"']
  | .literal => '|' :: literalHints cs ++ '\n' :: literalLines indent true cs

/-- A key that is followed by its colon directly: in one line and of 128 octets at most. -/
def isFlatKey (k : String) : Bool := !Style.hasBreak k.toList && k.utf8ByteSize ≤ 128

/-- A line feed, unless the text ends its line itself. -/
def newline (text : List Char) : List Char :=
  if text.getLast?.any isBreak then [] else ['\n']

mutual

def valueText (flat : Bool) (indent : Nat) : Tree → List Char
  | .bool b => if b then " true".toList else " false".toList
  | .integer n => ' ' :: (toString n).toList
  | .string s => ' ' :: stringText false (indent + 2) s
  | .mapping [] => " {}".toList
  | .mapping (p :: rest) =>
    (if flat then '\n' :: spaces (indent + 2) else [' ']) ++ pairsText (indent + 2) (p :: rest)

def pairsText (indent : Nat) : List (String × Tree) → List Char
  | [] => []
  | p :: rest =>
    let text := pairText indent p
    if rest.isEmpty then text
    else text ++ newline text ++ spaces indent ++ pairsText indent rest

def pairText (indent : Nat) : String × Tree → List Char
  | (k, t) =>
    if isFlatKey k then stringText true (indent + 2) k ++ ':' :: valueText true indent t
    else
      let key := '?' :: ' ' :: stringText false (indent + 2) k
      key ++ newline key ++ spaces indent ++ ':' :: valueText false indent t

end

def chars (t : Tree) : List Char :=
  let text := match t with
    | .mapping [] => "{}".toList
    | .mapping (p :: rest) => pairsText 0 (p :: rest)
    | .bool b => if b then "true".toList else "false".toList
    | .integer n => (toString n).toList
    | .string s => stringText false 2 s
  text ++ newline text

def render (t : Tree) : String := String.ofList t.chars

end Tree

end ConfigKeeper.Yaml
