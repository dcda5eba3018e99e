import ConfigKeeper.Number.Shortest

namespace ConfigKeeper.Yaml

open Number (Binary64)

inductive Numeral
  /-- Between -2^63 and 2^64 - 1. -/
  | integer (n : Int)
  | float (x : Binary64)
  deriving DecidableEq, Repr

namespace Numeral

def text : Numeral → String
  | .integer n => toString n
  | .float x => x.text

def same : Numeral → Numeral → Bool
  | .integer m, .integer n => m == n
  | .float x, .float y => x.same y
  | _, _ => false

end Numeral

inductive Node
  | null
  | bool (b : Bool)
  | number (n : Numeral)
  | string (s : String)
  | sequence (items : List Node)
  | mapping (pairs : List (Node × Node))
  | tagged (tag : String) (content : Node)

namespace Node

/-- The string a mapping key is, seen through its tags. -/
def asString? : Node → Option String
  | .string s => some s
  | .tagged _ n => asString? n
  | _ => none

mutual

/-- Equality of meaning: numbers by value, mappings without regard to order. -/
def same : Node → Node → Bool
  | .null, .null => true
  | .bool a, .bool b => a == b
  | .number a, .number b => a.same b
  | .string a, .string b => a == b
  | .sequence as, .sequence bs => sameItems as bs
  | .mapping as, .mapping bs => as.length == bs.length && allIn as bs
  | .tagged s a, .tagged t b => s == t && same a b
  | _, _ => false

def sameItems : List Node → List Node → Bool
  | [], [] => true
  | a :: as, b :: bs => same a b && sameItems as bs
  | _, _ => false

def allIn : List (Node × Node) → List (Node × Node) → Bool
  | [], _ => true
  | p :: ps, bs => isIn p bs && allIn ps bs

def isIn : Node × Node → List (Node × Node) → Bool
  | (k, v), bs => bs.any fun q ↦ same k q.1 && same v q.2

end

mutual

/-- Whether two nodes are one and the same, with their pairs in one order. -/
def equal : Node → Node → Bool
  | .null, .null => true
  | .bool a, .bool b => a == b
  | .number a, .number b => a == b
  | .string a, .string b => a == b
  | .sequence as, .sequence bs => equalItems as bs
  | .mapping as, .mapping bs => equalPairs as bs
  | .tagged s a, .tagged t b => s == t && equal a b
  | _, _ => false

def equalItems : List Node → List Node → Bool
  | [], [] => true
  | a :: as, b :: bs => equal a b && equalItems as bs
  | _, _ => false

def equalPairs : List (Node × Node) → List (Node × Node) → Bool
  | [], [] => true
  | p :: ps, q :: qs => equalPair p q && equalPairs ps qs
  | _, _ => false

def equalPair : Node × Node → Node × Node → Bool
  | (k, v), (l, w) => equal k l && equal v w

end

mutual

theorem equal_iff : (a b : Node) → (a.equal b ↔ a = b)
  | .null, b => by cases b <;> simp [equal]
  | .bool _, b => by cases b <;> simp [equal]
  | .number _, b => by cases b <;> simp [equal]
  | .string _, b => by cases b <;> simp [equal]
  | .sequence as, b => by cases b <;> simp [equal, equalItems_iff as]
  | .mapping as, b => by cases b <;> simp [equal, equalPairs_iff as]
  | .tagged _ a, b => by cases b <;> simp [equal, equal_iff a]

theorem equalItems_iff : (as bs : List Node) → (equalItems as bs ↔ as = bs)
  | [], bs => by cases bs <;> simp [equalItems]
  | a :: as, bs => by cases bs <;> simp [equalItems, equal_iff a, equalItems_iff as]

theorem equalPairs_iff : (as bs : List (Node × Node)) → (equalPairs as bs ↔ as = bs)
  | [], bs => by cases bs <;> simp [equalPairs]
  | p :: ps, bs => by cases bs <;> simp [equalPairs, equalPair_iff p, equalPairs_iff ps]

theorem equalPair_iff : (p q : Node × Node) → (equalPair p q ↔ p = q)
  | (k, v), (l, w) => by simp [equalPair, equal_iff k, equal_iff v]

end

instance : DecidableEq Node := fun a b ↦ decidable_of_iff _ (equal_iff a b)

end Node

end ConfigKeeper.Yaml
