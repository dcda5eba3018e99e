import ConfigKeeper.Yaml.Node
import ConfigKeeper.Text.Shown

namespace ConfigKeeper.Yaml.Node

/-- The name of a kind and what is in it; in a key only what is in it. -/
def kind (inKey : Bool) (name content : String) : String :=
  if inKey then content else name ++ "(" ++ content ++ ")"

mutual

def shownAs (inKey : Bool) : Node → String
  | .null => "Null"
  | .bool b => kind inKey "Bool" (toString b)
  | .number n => kind inKey "Number" n.text
  | .string s => kind inKey "String" (Text.shown s)
  | .sequence items => "Sequence [" ++ ", ".intercalate (shownItems items) ++ "]"
  | .mapping pairs => "Mapping \x7b" ++ ", ".intercalate (shownPairs pairs) ++ "\x7d"
  | .tagged tag n =>
    "TaggedValue \x7b tag: !" ++ tag ++ ", value: " ++ shownAs false n ++ " \x7d"

def shownItems : List Node → List String
  | [] => []
  | n :: rest => shownAs false n :: shownItems rest

def shownPairs : List (Node × Node) → List String
  | [] => []
  | p :: rest => shownPair p :: shownPairs rest

def shownPair : Node × Node → String
  | (k, v) => shownAs true k ++ ": " ++ shownAs false v

end

def shown (n : Node) : String := n.shownAs false

end ConfigKeeper.Yaml.Node
