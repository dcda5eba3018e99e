import ConfigKeeper.Yaml.Tree
import ConfigKeeper.Text.Shown

namespace ConfigKeeper

inductive Value
  | bool (b : Bool)
  | int (i : Int64)
  | string (s : String)
  deriving DecidableEq, Repr

namespace Value

/-- An integer where 64 bits hold it, and its digits where they do not. -/
def ofInt (n : Int) : Value :=
  if h : Int64.minValue.toInt ≤ n ∧ n ≤ Int64.maxValue.toInt then .int (Int64.ofIntLE n h.1 h.2)
  else .string (toString n)

/-- The value a node stands for. Nothing is read as the empty string and a number with a fraction as
its text; collections and tagged nodes are no values. -/
def ofNode? : Yaml.Node → Option Value
  | .null => some (.string "")
  | .bool b => some (.bool b)
  | .number (.integer n) => some (ofInt n)
  | .number (.float x) => some (.string x.text)
  | .string s => some (.string s)
  | .sequence _ | .mapping _ | .tagged _ _ => none

def toTree : Value → Yaml.Tree
  | .bool b => .bool b
  | .int i => .integer i.toInt
  | .string s => .string s

def toNode (v : Value) : Yaml.Node := v.toTree.toNode

def text : Value → String
  | .bool b => toString b
  | .int i => toString i.toInt
  | .string s => s

def shown : Value → String
  | .bool b => s!"Bool({b})"
  | .int i => s!"Int({i.toInt})"
  | .string s => s!"String({Text.shown s})"

end Value

end ConfigKeeper
