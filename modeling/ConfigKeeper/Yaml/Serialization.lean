import ConfigKeeper.Yaml.Token

namespace ConfigKeeper.Yaml

structure Properties where
  anchor : Option Nat := none
  tag : Option (List UInt8) := none
  deriving DecidableEq, Repr

inductive Serialization
  | alias (anchor : Nat)
  | scalar (props : Properties) (plain : Bool) (text : String)
  | sequence (props : Properties) (items : List Serialization)
  | mapping (props : Properties) (pairs : List (Serialization × Serialization))

namespace Serialization

def empty (props : Properties := {}) : Serialization := .scalar props true ""

mutual

/-- How many marks the document is written with: one for a scalar or an alias, two for the ends of
a collection. -/
def size : Serialization → Nat
  | .alias _ => 1
  | .scalar .. => 1
  | .sequence _ items => 2 + sizeItems items
  | .mapping _ pairs => 2 + sizePairs pairs

def sizeItems : List Serialization → Nat
  | [] => 0
  | s :: r => size s + sizeItems r

def sizePairs : List (Serialization × Serialization) → Nat
  | [] => 0
  | p :: r => sizePair p + sizePairs r

def sizePair : Serialization × Serialization → Nat
  | (k, v) => size k + size v

end

mutual

/-- The anchored nodes with their numbers, in document order. -/
def anchored : Serialization → List (Nat × Serialization)
  | .alias _ => []
  | .scalar p plain text => here p (.scalar p plain text)
  | .sequence p items => here p (.sequence p items) ++ anchoredItems items
  | .mapping p pairs => here p (.mapping p pairs) ++ anchoredPairs pairs
where
  here (p : Properties) (s : Serialization) : List (Nat × Serialization) :=
    p.anchor.toList.map (·, s)

def anchoredItems : List Serialization → List (Nat × Serialization)
  | [] => []
  | s :: r => anchored s ++ anchoredItems r

def anchoredPairs : List (Serialization × Serialization) → List (Nat × Serialization)
  | [] => []
  | p :: r => anchoredPair p ++ anchoredPairs r

def anchoredPair : Serialization × Serialization → List (Nat × Serialization)
  | (k, v) => anchored k ++ anchored v

end

/-- What an alias stands for: the last node that was given this number. -/
def target? (anchored : List (Nat × Serialization)) (n : Nat) : Option Serialization :=
  (anchored.reverse.find? (·.1 == n)).map (·.2)

end Serialization

end ConfigKeeper.Yaml
