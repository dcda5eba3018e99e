import ConfigKeeper.Store.Basic
import ConfigKeeper.Yaml.Document

namespace ConfigKeeper

inductive Finding
  | setting (key : String) (value : Value)
  | strayKey (key : Yaml.Node)
  | strayValue (key : String)

namespace Finding

def setting? : Finding → Option (String × Value)
  | .setting key value => some (key, value)
  | _ => none

def warning? : Finding → Option Log.Event
  | .setting _ _ => none
  | .strayKey key => some (.strayKey key)
  | .strayValue key => some (.strayValue key)

def under (scope name : String) : String :=
  if scope.isEmpty then Text.lower name else scope ++ "." ++ Text.lower name

mutual

def ofPairs (scope : String) : List (Yaml.Node × Yaml.Node) → List Finding
  | [] => []
  | p :: rest => ofPair scope p ++ ofPairs scope rest

def ofPair (scope : String) : Yaml.Node × Yaml.Node → List Finding
  | (k, v) =>
    match k.asString? with
    | some name => ofNode (under scope name) v
    | none => [.strayKey k]

def ofNode (key : String) : Yaml.Node → List Finding
  | .mapping pairs => ofPairs key pairs
  | n =>
    match Value.ofNode? n with
    | some v => [.setting key v]
    | none => [.strayValue key]

end

end Finding

def begins (start s : String) : Bool := start.toList.isPrefixOf s.toList

/-- The least key with another key under it, and the least of those. -/
def conflict? (keys : List String) : Option (String × String) :=
  keys.findSome? fun key ↦
    ((keys.find? (key ++ "." ≤ ·)).filter (begins (key ++ "."))).map (key, ·)

/-- What reading a document comes to, and what is reported meanwhile. -/
structure Loaded where
  result : Except Error Store
  events : List Log.Event

namespace Store

/-- The pairs of a document over the values that `s` has already. -/
def withPairs (s : Store) (pairs : List (Yaml.Node × Yaml.Node)) : Loaded :=
  let findings := Finding.ofPairs "" pairs
  let found := KeyMap.ofList (findings.filterMap Finding.setting?)
  let values := s.values.overlay found
  { result := match conflict? values.keys with
      | some (parent, child) => .error (.document (.nested parent child))
      | none => .ok { s with values }
    events := findings.filterMap Finding.warning? ++ [.loadedValues found.size] }

def ofNode (env : Environment) (d : Disk) (path : Path) : Yaml.Node → Loaded
  | .null => ⟨.ok (initialAt env d path), []⟩
  | .mapping pairs => (initialAt env d path).withPairs pairs
  | _ => ⟨.error (.document .notMapping), []⟩

def ofText (env : Environment) (d : Disk) (path : Path) (text : String) : Loaded :=
  match Yaml.read text with
  | some n => ofNode env d path n
  | none => ⟨.error (.document .unreadable), []⟩

def load (env : Environment) (d : Disk) (path : Path) : Loaded :=
  match d.readText path with
  | .ok text => ofText env d path text
  | .error f => ⟨.error (.io "Failed to read configuration file" f), []⟩

end Store

end ConfigKeeper
