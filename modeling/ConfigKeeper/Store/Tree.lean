import ConfigKeeper.Store.Basic

namespace ConfigKeeper

namespace Branch

open Yaml (Tree)

def set (name : String) (t : Tree) : List (String × Tree) → List (String × Tree)
  | [] => [(name, t)]
  | p :: rest => if p.1 = name then (name, t) :: rest else p :: set name t rest

/-- Puts a value behind the parts of a key. There is no room for it under another value, nor in
place of a mapping. -/
def insert (value : Tree) : List String → List (String × Tree) → Option (List (String × Tree))
  | [], pairs => some pairs
  | [last], pairs =>
    match pairs.lookup last with
    | some (.mapping _) => none
    | _ => some (set last value pairs)
  | first :: rest, pairs =>
    match pairs.lookup first with
    | none => (insert value rest []).map fun child ↦ set first (.mapping child) pairs
    | some (.mapping inner) =>
      (insert value rest inner).map fun child ↦ set first (.mapping child) pairs
    | some _ => none

def insertAll (pairs : List (String × Tree)) :
    List (String × Value) → Except DocumentFault (List (String × Tree))
  | [] => .ok pairs
  | (key, value) :: rest =>
    match insert value.toTree ((key.toList.splitOn '.').map String.ofList) pairs with
    | some pairs => insertAll pairs rest
    | none => .error (.clash key)

end Branch

namespace Store

def toTree (s : Store) : Except DocumentFault Yaml.Tree :=
  match Branch.insertAll [] s.values.entries with
  | .ok pairs => .ok (.mapping pairs)
  | .error f => .error f

def toText (s : Store) : Except DocumentFault String :=
  match s.toTree with
  | .ok tree => .ok tree.render
  | .error f => .error f

end Store

end ConfigKeeper
