import ConfigKeeper.Yaml.Serialization

namespace ConfigKeeper.Yaml.Grammar

/-- What is left to read, the tag shorthands in force, and the anchor names met with their
numbers. -/
structure State where
  tokens : List Token
  shorthands : List (String × List UInt8) := []
  anchors : List (String × Nat) := []

abbrev Parse := StateT State Option

def accept (t : Token) : Parse Bool := do
  let s ← get
  if s.tokens.head? == some t then
    set { s with tokens := s.tokens.tail }
    return true
  else return false

def expect (t : Token) : Parse Unit := do
  if !(← accept t) then failure

def sees (ts : List Token) : Parse Bool := do
  return (← get).tokens.head?.any (ts.contains ·)

def advance : Parse Unit := modify fun s ↦ { s with tokens := s.tokens.tail }

def nameAnchor (name : String) : Parse Nat := do
  let s ← get
  let n := s.anchors.length
  let others := s.anchors.filter (·.1 != name)
  set { s with anchors := (name, n) :: others }
  return n

def expandTag (handle : String) (tail : List UInt8) : Parse (List UInt8) := do
  if handle.isEmpty then return tail
  match (← get).shorthands.lookup handle with
  | some head => return head ++ tail
  | none => failure

def properties : Parse (Properties × Bool) := do
  let anchor? : Parse (Option Nat) := do
    match (← get).tokens.head? with
    | some (.anchor name) => advance; return some (← nameAnchor name)
    | _ => return none
  let tag? : Parse (Option (List UInt8)) := do
    match (← get).tokens.head? with
    | some (.tag handle tail) => advance; return some (← expandTag handle tail)
    | _ => return none
  let first ← anchor?
  let tag ← tag?
  let anchor ← if first.isNone && tag.isSome then anchor? else pure first
  return ({ anchor, tag }, anchor.isSome || tag.isSome)

mutual

/-- A node. Block collections are admitted where `block` holds, and a sequence that is not indented
further than the mapping around it where `flush` does. -/
def node (block flush : Bool) : Nat → Parse Serialization
  | 0 => failure
  | fuel + 1 => do
    match (← get).tokens.head? with
    | some (.alias name) =>
      advance
      match (← get).anchors.lookup name with
      | some n => return .alias n
      | none => failure
    | _ =>
      let (props, any) ← properties
      match (← get).tokens.head? with
      | some (.scalar plain text) => advance; return .scalar props plain text
      | some .flowSequence => advance; return .sequence props (← flowItems true fuel)
      | some .flowMapping => advance; return .mapping props (← flowPairs true fuel)
      | some .entry =>
        if flush then return .sequence props (← flushItems fuel)
        else if any then return .empty props
        else failure
      | some .blockSequence =>
        if block then advance; return .sequence props (← blockItems fuel)
        else if any then return .empty props
        else failure
      | some .blockMapping =>
        if block then advance; return .mapping props (← blockPairs fuel)
        else if any then return .empty props
        else failure
      | _ => if any then return .empty props else failure

def blockItems : Nat → Parse (List Serialization)
  | 0 => failure
  | fuel + 1 => do
    if ← accept .entry then
      let item ← if ← sees [.entry, .blockEnd] then pure .empty else node true false fuel
      return item :: (← blockItems fuel)
    else
      expect .blockEnd
      return []

def flushItems : Nat → Parse (List Serialization)
  | 0 => failure
  | fuel + 1 => do
    if ← accept .entry then
      let item ← if ← sees [.entry, .key, .value, .blockEnd] then pure .empty
        else node true false fuel
      return item :: (← flushItems fuel)
    else return []

def blockPairs : Nat → Parse (List (Serialization × Serialization))
  | 0 => failure
  | fuel + 1 => do
    if ← accept .key then
      let key ← if ← sees [.key, .value, .blockEnd] then pure .empty else node true true fuel
      let value ←
        if ← accept .value then
          if ← sees [.key, .value, .blockEnd] then pure .empty else node true true fuel
        else pure .empty
      return (key, value) :: (← blockPairs fuel)
    else
      expect .blockEnd
      return []

/-- The items of a flow sequence. A key among them makes a mapping of one pair; a key without text
takes the token behind it with it. -/
def flowItems (first : Bool) : Nat → Parse (List Serialization)
  | 0 => failure
  | fuel + 1 => do
    if ← accept .flowSequenceEnd then return []
    if !first then expect .flowEntry
    if ← accept .key then
      let key ←
        if ← sees [.value, .flowEntry, .flowSequenceEnd] then
          advance
          pure .empty
        else node false false fuel
      let value ←
        if ← accept .value then
          if ← sees [.flowEntry, .flowSequenceEnd] then pure .empty else node false false fuel
        else pure .empty
      return .mapping {} [(key, value)] :: (← flowItems false fuel)
    else if ← accept .flowSequenceEnd then return []
    else
      let item ← node false false fuel
      return item :: (← flowItems false fuel)

def flowPairs (first : Bool) : Nat → Parse (List (Serialization × Serialization))
  | 0 => failure
  | fuel + 1 => do
    if ← accept .flowMappingEnd then return []
    if !first then expect .flowEntry
    if ← accept .key then
      let key ← if ← sees [.value, .flowEntry, .flowMappingEnd] then pure .empty
        else node false false fuel
      let value ←
        if ← accept .value then
          if ← sees [.flowEntry, .flowMappingEnd] then pure .empty else node false false fuel
        else pure .empty
      return (key, value) :: (← flowPairs false fuel)
    else if ← accept .flowMappingEnd then return []
    else
      let key ← node false false fuel
      return (key, .empty) :: (← flowPairs false fuel)

end

/-- The directives before a document: one version at most, 1.1 or 1.2, and no shorthand twice. -/
def directives : Nat → Bool → List (String × List UInt8) → Parse (List (String × List UInt8))
  | 0, _, _ => failure
  | fuel + 1, versioned, shorthands => do
    match (← get).tokens.head? with
    | some (.version major minor) =>
      if versioned || major != 1 || (minor != 1 && minor != 2) then failure
      advance
      directives fuel true shorthands
    | some (.tagShorthand handle tail) =>
      if (shorthands.lookup handle).isSome then failure
      advance
      directives fuel versioned ((handle, tail) :: shorthands)
    | _ => return shorthands

def standardShorthands : List (String × List UInt8) :=
  [("!", Token.octetsOf ['!']), ("!!", Token.octetsOf "tag:yaml.org,2002:".toList)]

def document (fuel : Nat) : Parse Serialization := do
  let tokens := (← get).tokens
  let marked := match tokens.head? with
    | some (.version ..) | some (.tagShorthand ..) | some .documentStart => true
    | _ => false
  let shorthands ← if marked then directives fuel false [] else pure []
  modify fun s ↦ { s with shorthands := shorthands ++ standardShorthands }
  let bare ←
    if marked then
      expect .documentStart
      match (← get).tokens.head? with
      | none | some (.version ..) | some (.tagShorthand ..) | some .documentStart
      | some .documentEnd => pure true
      | _ => pure false
    else pure false
  let root ← if bare then pure .empty else node true false fuel
  let rest := (← get).tokens
  if (rest.dropWhile (· == .documentEnd)).isEmpty then return root else failure

end Grammar

def Serialization.ofTokens? (tokens : List Token) : Option (Option Serialization) :=
  if tokens.isEmpty then some none
  else (Grammar.document (3 * tokens.length + 10) |>.run { tokens }).map fun r ↦ some r.1

end ConfigKeeper.Yaml
