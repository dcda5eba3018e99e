import ConfigKeeper.Yaml.Tokenizer
import ConfigKeeper.Yaml.Grammar
import ConfigKeeper.Yaml.Scalar

namespace ConfigKeeper.Yaml

def unmarked : List UInt8 → List UInt8
  | 33 :: c :: rest => c :: rest
  | tag => tag

/-- The name of the tag that makes a node a tagged one: it begins with `!`, and a second mark is no
part of the name either. -/
def localTag? (tag : Option (List UInt8)) : Option String := do
  let t ← tag
  if t.head? == some 33 then String.fromUTF8? ⟨(unmarked (unmarked t)).toArray⟩ else none

namespace Node

abbrev Reading := StateT Nat Option

/-- How the nodes inside a collection are read; the flag tells that the tag of the next node has
been taken already. -/
abbrev Inner := Bool → Serialization → Reading Node

def items (inner : Inner) : List Serialization → Reading (List Node)
  | [] => pure []
  | s :: rest => do
    let n ← inner false s
    return n :: (← items inner rest)

def pairs (inner : Inner) (tagTaken : Bool) (before : List (Node × Node)) :
    List (Serialization × Serialization) → Reading (List (Node × Node))
  | [] => pure before
  | (k, v) :: rest => do
    let key ← inner tagTaken k
    if before.any fun p ↦ p.1.same key then failure
    let value ← inner false v
    pairs inner tagTaken (before ++ [(key, value)]) rest

def content (inner : Option Inner) (tagTaken : Bool) : Serialization → Reading Node
  | .alias _ => failure
  | .scalar p plain text =>
    match localTag? p.tag with
    | some t =>
      if tagTaken then Scalar.meaning? none plain text
      else return .tagged t (← Scalar.meaning? none plain text)
    | none => Scalar.meaning? (if tagTaken then none else p.tag) plain text
  | .sequence p list => do
    let inner ← inner
    let n := Node.sequence (← items inner list)
    match localTag? p.tag, tagTaken with
    | some t, false => return .tagged t n
    | _, _ => return n
  | .mapping p list => do
    let inner ← inner
    match localTag? p.tag, tagTaken with
    | some t, false => return .tagged t (.mapping (← pairs inner true [] list))
    | _, _ => return .mapping (← pairs inner tagTaken [] list)

def read (limit : Nat) (anchored : List (Nat × Serialization)) (inner : Option Inner) : Inner :=
  fun tagTaken s ↦
    match s with
    | .alias n => do
      let followed := (← get) + 1
      if limit < followed then failure
      set followed
      content inner false (← Serialization.target? anchored n)
    | s => content inner tagTaken s

def within (limit : Nat) (anchored : List (Nat × Serialization)) : Nat → Inner
  | 0 => read limit anchored none
  | depth + 1 => read limit anchored (some (within limit anchored depth))

def maxDepth : Nat := 128

def ofSerialization? (s : Serialization) : Option Node :=
  (within (100 * s.size) s.anchored maxDepth false s |>.run 0).map (·.1)

end Node

def readChars (text : List Char) : Option Node := do
  match ← Serialization.ofTokens? (← tokens? text) with
  | some s => Node.ofSerialization? s
  | none => some .null

/-- The meaning of a text, which is null if it is empty; `none` if it is not a document. -/
def read (text : String) : Option Node := readChars text.toList

end ConfigKeeper.Yaml
