import ConfigKeeper.Proofs.Coherence
import ConfigKeeper.Proofs.Places

namespace ConfigKeeper

namespace Yaml.Node

/-- The pairs of a document; what is no mapping has none. -/
def topPairs : Node → List (Node × Node)
  | .mapping pairs => pairs
  | _ => []

/-- The documents that a store can be read from. -/
def IsDocument (n : Node) : Prop := n = .null ∨ ∃ pairs, n = .mapping pairs

end Yaml.Node

namespace Finding

open Yaml (Node)

/-- The pair at a place inside a pair, and the string keys on the way to it. Nothing is reached
through a key that is no string, nor inside anything but a mapping. -/
def inside? : List Nat → Node × Node → Option (List String × Node × Node)
  | [], p => some ([], p)
  | i :: place, (k, n) =>
    match k.asString?, n with
    | some name, .mapping pairs =>
      match pairs[i]? with
      | some p => (inside? place p).map fun r ↦ (name :: r.1, r.2)
      | none => none
    | _, _ => none

def pairAt? (pairs : List (Node × Node)) : List Nat → Option (List String × Node × Node)
  | [] => none
  | i :: place =>
    match pairs[i]? with
    | some p => inside? place p
    | none => none

theorem inside?_mapping {k : Node} {name : String} (hk : k.asString? = some name)
    (pairs : List (Node × Node)) (i : Nat) (place : List Nat) :
    inside? (i :: place) (k, .mapping pairs) =
      (pairAt? pairs (i :: place)).map fun r ↦ (name :: r.1, r.2) := by
  simp only [inside?, pairAt?, hk]
  cases pairs[i]? <;> rfl

def here? (scope : String) (k n : Node) : Option Finding :=
  match k.asString? with
  | none => some (.strayKey k)
  | some name =>
    match n with
    | .mapping _ => none
    | n =>
      match Value.ofNode? n with
      | some v => some (.setting (under scope name) v)
      | none => some (.strayValue (under scope name))

def Inside (scope : String) (p : Node × Node) (place : List Nat) (f : Finding) : Prop :=
  ∃ names k n, inside? place p = some (names, k, n) ∧ here? (names.foldl under scope) k n = some f

def At (scope : String) (pairs : List (Node × Node)) (place : List Nat) (f : Finding) : Prop :=
  ∃ names k n, pairAt? pairs place = some (names, k, n) ∧
    here? (names.foldl under scope) k n = some f

theorem at_cons (scope : String) (p : Node × Node) (rest : List (Node × Node)) (place : List Nat)
    (f : Finding) :
    InOrder.Joined (Inside scope p) (At scope rest) place f ↔ At scope (p :: rest) place f := by
  match place with
  | [] => simp [InOrder.Joined, At, pairAt?]
  | 0 :: place => simp [InOrder.Joined, At, Inside, pairAt?]
  | (i + 1) :: place => simp [InOrder.Joined, At, pairAt?]

theorem inside_nil (scope : String) (k n : Node) (f : Finding) :
    Inside scope (k, n) [] f ↔ here? scope k n = some f := by
  constructor
  · rintro ⟨names, l, m, hplace, hhere⟩
    cases hplace
    exact hhere
  · intro hhere
    exact ⟨[], k, n, rfl, hhere⟩

theorem inside_mapping {scope name : String} {k : Node} (hk : k.asString? = some name)
    (pairs : List (Node × Node)) (place : List Nat) (f : Finding) :
    Inside scope (k, .mapping pairs) place f ↔ At (under scope name) pairs place f := by
  cases place with
  | nil => simp [inside_nil, here?, hk, At, pairAt?]
  | cons i place =>
    simp only [Inside, At, inside?_mapping hk, Option.map_eq_some_iff, Prod.mk.injEq]
    constructor
    · rintro ⟨names, l, n, ⟨⟨names, l, n⟩, hplace, rfl, heq⟩, hhere⟩
      cases heq
      exact ⟨names, l, n, hplace, hhere⟩
    · rintro ⟨names, l, n, hplace, hhere⟩
      exact ⟨name :: names, l, n, ⟨_, hplace, rfl, rfl⟩, hhere⟩

theorem inside_iff_of_here {scope : String} {k n : Node} {f : Finding}
    (hhere : here? scope k n = some f)
    (hinside : ∀ i place, inside? (i :: place) (k, n) = none) (place : List Nat) (g : Finding) :
    Inside scope (k, n) place g ↔ place = [] ∧ g = f := by
  cases place with
  | nil => simp [inside_nil, hhere, eq_comm]
  | cons i place => simp [Inside, hinside]

theorem ofNode_of_flat {n : Node} (hn : ∀ pairs, n ≠ .mapping pairs) (key : String) :
    ofNode key n = match Value.ofNode? n with
      | some v => [.setting key v]
      | none => [.strayValue key] := by
  cases n with
  | mapping pairs => exact absurd rfl (hn pairs)
  | null | bool _ | number _ | string _ | sequence _ | tagged _ _ => rfl

theorem here?_of_flat {k n : Node} {name : String} (hk : k.asString? = some name)
    (hn : ∀ pairs, n ≠ .mapping pairs) (scope : String) :
    here? scope k n = match Value.ofNode? n with
      | some v => some (.setting (under scope name) v)
      | none => some (.strayValue (under scope name)) := by
  rw [here?, hk]
  cases n with
  | mapping pairs => exact absurd rfl (hn pairs)
  | null | bool _ | number _ | string _ | sequence _ | tagged _ _ => rfl

theorem inOrder_of_flat {k n : Node} {name : String} (hk : k.asString? = some name)
    (hn : ∀ pairs, n ≠ .mapping pairs) (scope : String) :
    InOrder (Inside scope (k, n)) (ofNode (under scope name) n) := by
  have hhere := here?_of_flat hk hn scope
  have hinside : ∀ i place, inside? (i :: place) (k, n) = none := by
    intro i place
    rw [inside?]
    intro _ pairs _ heq
    exact hn pairs heq
  rw [ofNode_of_flat hn]
  cases hv : Value.ofNode? n with
  | some v =>
    rw [hv] at hhere
    exact .single (inside_iff_of_here hhere hinside)
  | none =>
    rw [hv] at hhere
    exact .single (inside_iff_of_here hhere hinside)

mutual

theorem inOrder_ofPairs (scope : String) : (pairs : List (Node × Node)) →
    InOrder (At scope pairs) (ofPairs scope pairs)
  | [] => by
    refine .nil ?_
    rintro place f ⟨names, k, n, hplace, -⟩
    cases place <;> cases hplace
  | p :: rest => by
    rw [ofPairs]
    refine (InOrder.append (inOrder_ofPair scope p) (inOrder_ofPairs scope rest) ?_).congr
      (at_cons scope p rest)
    simp [At, pairAt?]

theorem inOrder_ofPair (scope : String) : (p : Node × Node) →
    InOrder (Inside scope p) (ofPair scope p)
  | (k, n) => by
    rw [ofPair]
    cases hk : k.asString? with
    | none =>
      refine .single (inside_iff_of_here (by simp [here?, hk]) ?_)
      simp [inside?, hk]
    | some name => exact inOrder_ofNode scope hk n

theorem inOrder_ofNode (scope : String) {k : Node} {name : String} (hk : k.asString? = some name) :
    (n : Node) → InOrder (Inside scope (k, n)) (ofNode (under scope name) n)
  | .mapping pairs => by
    rw [ofNode]
    refine (inOrder_ofPairs (under scope name) pairs).congr ?_
    intro place f
    exact (inside_mapping hk pairs place f).symm
  | .null | .bool _ | .number _ | .string _ | .sequence _ | .tagged _ _ => by
    refine inOrder_of_flat hk ?_ scope
    intro _ heq
    cases heq

end

/-- The key of a chain of names: in small letters, joined by dots, without the empty names in
front. -/
def spelled (names : List String) : String := dottedPath (names.dropWhile (· = ""))

theorem keyOf_eq_spelled (names : List String) : keyOf names = spelled names := by
  induction names with
  | nil => rfl
  | cons name rest ih =>
    by_cases hname : name = ""
    · subst hname
      have hempty : under "" "" = "" := by decide
      rw [keyOf, List.foldl_cons, hempty, ← keyOf, ih, spelled, spelled]
      simp
    · rw [keyOf_cons hname, spelled]
      simp [hname]

theorem under_foldl (names : List String) (name : String) :
    under (names.foldl under "") name = spelled (names ++ [name]) := by
  rw [← keyOf_eq_spelled, keyOf, List.foldl_append]
  rfl

/-- Some value is set at the place: string keys lead to it and it holds a value. -/
def Sets (pairs : List (Node × Node)) (place : List Nat) (e : String × Value) : Prop :=
  ∃ names k name n, pairAt? pairs place = some (names, k, n) ∧ k.asString? = some name ∧
    Value.ofNode? n = some e.2 ∧ e.1 = spelled (names ++ [name])

/-- The value is set at the last of the places that set one for the key. -/
def SetsLast (pairs : List (Node × Node)) (k : String) (v : Value) : Prop :=
  ∃ place, Sets pairs place (k, v) ∧ ∀ place' v', Sets pairs place' (k, v') → ¬place < place'

/-- A warning is due at the place: the key is no string, or it leads to what holds no value. -/
inductive Warns (pairs : List (Node × Node)) : List Nat → Log.Event → Prop
  | strayKey {place : List Nat} {names : List String} {k n : Node} :
      pairAt? pairs place = some (names, k, n) → k.asString? = none →
      Warns pairs place (.strayKey k)
  | sequence {place : List Nat} {names : List String} {k : Node} {name : String}
      {items : List Node} :
      pairAt? pairs place = some (names, k, .sequence items) → k.asString? = some name →
      Warns pairs place (.strayValue (spelled (names ++ [name])))
  | tagged {place : List Nat} {names : List String} {k n : Node} {name tag : String} :
      pairAt? pairs place = some (names, k, .tagged tag n) → k.asString? = some name →
      Warns pairs place (.strayValue (spelled (names ++ [name])))

theorem setting?_here? {scope : String} {k n : Node} {e : String × Value} :
    (∃ f, here? scope k n = some f ∧ f.setting? = some e) ↔
      ∃ name, k.asString? = some name ∧ Value.ofNode? n = some e.2 ∧ e.1 = under scope name := by
  obtain ⟨key, v⟩ := e
  cases hk : k.asString? with
  | none => simp [here?, hk, setting?]
  | some name =>
    by_cases hn : ∃ pairs, n = .mapping pairs
    · obtain ⟨pairs, rfl⟩ := hn
      simp [here?, hk, Value.ofNode?]
    · rw [here?_of_flat hk (fun pairs heq ↦ hn ⟨pairs, heq⟩)]
      cases Value.ofNode? n <;> simp [setting?, eq_comm, and_comm]

theorem sets_iff {pairs : List (Node × Node)} {place : List Nat} {e : String × Value} :
    (∃ f, At "" pairs place f ∧ f.setting? = some e) ↔ Sets pairs place e := by
  constructor
  · rintro ⟨f, ⟨names, k, n, hplace, hhere⟩, hset⟩
    obtain ⟨name, hk, hv, hkey⟩ := setting?_here?.1 ⟨f, hhere, hset⟩
    exact ⟨names, k, name, n, hplace, hk, hv, hkey.trans (under_foldl names name)⟩
  · rintro ⟨names, k, name, n, hplace, hk, hv, hkey⟩
    rw [← under_foldl] at hkey
    obtain ⟨f, hhere, hset⟩ := setting?_here?.2 ⟨name, hk, hv, hkey⟩
    exact ⟨f, ⟨names, k, n, hplace, hhere⟩, hset⟩

theorem warns_iff {pairs : List (Node × Node)} {place : List Nat} {e : Log.Event} :
    (∃ f, At "" pairs place f ∧ f.warning? = some e) ↔ Warns pairs place e := by
  constructor
  · rintro ⟨f, ⟨names, k, n, hplace, hhere⟩, hwarn⟩
    cases hk : k.asString? with
    | none =>
      rw [here?, hk] at hhere
      cases hhere
      cases hwarn
      exact .strayKey hplace hk
    | some name =>
      rw [here?, hk] at hhere
      cases n with
      | mapping pairs => cases hhere
      | null | bool _ | string _ =>
        cases hhere
        cases hwarn
      | number m =>
        cases m <;> cases hhere <;> cases hwarn
      | sequence items =>
        cases hhere
        cases hwarn
        rw [under_foldl]
        exact .sequence hplace hk
      | tagged tag m =>
        cases hhere
        cases hwarn
        rw [under_foldl]
        exact .tagged hplace hk
  · intro h
    cases h with
    | strayKey hplace hk => exact ⟨_, ⟨_, _, _, hplace, by rw [here?, hk]⟩, rfl⟩
    | sequence hplace hk =>
      rw [← under_foldl]
      exact ⟨_, ⟨_, _, _, hplace, by rw [here?, hk]; rfl⟩, rfl⟩
    | tagged hplace hk =>
      rw [← under_foldl]
      exact ⟨_, ⟨_, _, _, hplace, by rw [here?, hk]; rfl⟩, rfl⟩

theorem inOrder_settings (pairs : List (Node × Node)) :
    InOrder (Sets pairs) ((ofPairs "" pairs).filterMap setting?) :=
  ((inOrder_ofPairs "" pairs).filterMap setting?).congr fun _ _ ↦ sets_iff

theorem inOrder_warnings (pairs : List (Node × Node)) :
    InOrder (Warns pairs) ((ofPairs "" pairs).filterMap warning?) :=
  ((inOrder_ofPairs "" pairs).filterMap warning?).congr fun _ _ ↦ warns_iff

theorem severity_warning {f : Finding} {e : Log.Event} (h : f.warning? = some e) :
    e.severity = .warn := by
  cases f <;> cases h <;> rfl

end Finding

namespace Store

open Yaml (Node)
open Finding (Sets SetsLast Warns)

/-- The value of a key once a document was read over a store: that of the last place at which the
document sets the key, and the one that the store had if there is no such place. -/
def Means (base : Store) (pairs : List (Node × Node)) (k : String) (v : Value) : Prop :=
  SetsLast pairs k v ∨ (∀ place v', ¬Sets pairs place (k, v')) ∧ base.get? k = some v

theorem get?_overlay_found (base : Store) (pairs : List (Node × Node)) (k : String) (v : Value) :
    (base.values.overlay (found pairs)).get? k = some v ↔ base.Means pairs k v := by
  have hsets := Finding.inOrder_settings pairs
  rw [Finding.settings_ofPairs] at hsets
  rw [KeyMap.get?_overlay]
  cases hfound : (found pairs).get? k with
  | some w =>
    rw [Option.some_or, ← hfound, found, hsets.get?_ofList]
    refine ⟨Or.inl, ?_⟩
    rintro (hlast | ⟨hnone, -⟩)
    · exact hlast
    · rw [found, hsets.get?_ofList_eq_none.2 hnone] at hfound
      cases hfound
  | none =>
    have hnone := hsets.get?_ofList_eq_none.1 hfound
    rw [Option.none_or]
    refine ⟨fun hbase ↦ Or.inr ⟨hnone, hbase⟩, ?_⟩
    rintro (⟨place, hset, -⟩ | ⟨-, hbase⟩)
    · exact absurd hset (hnone place v)
    · exact hbase

variable {env : Environment} {d : Disk} {path : Path} {n : Node} {s : Store}

theorem withPairs_nil (hs : s.Coherent) : (s.withPairs []).result = .ok s :=
  withPairs_eq_ok_iff.2 ⟨rfl, hs.apart⟩

theorem result_ofNode : (ofNode env d path n).result = .ok s ↔
    n.IsDocument ∧ ((initialAt env d path).withPairs n.topPairs).result = .ok s := by
  cases n with
  | null =>
    have hnil := withPairs_nil (coherent_initialAt env d path)
    simp [Node.IsDocument, ofNode, Node.topPairs, hnil]
  | mapping pairs => simp [Node.IsDocument, ofNode, Node.topPairs]
  | bool _ | number _ | string _ | sequence _ | tagged _ _ => simp [Node.IsDocument, ofNode]

theorem warnings_ofNode (env : Environment) (d : Disk) (path : Path) (n : Node) :
    (ofNode env d path n).events.filter (·.severity = .warn) =
      (Finding.ofPairs "" n.topPairs).filterMap Finding.warning? := by
  cases n with
  | mapping pairs =>
    have hall : ∀ e ∈ (Finding.ofPairs "" pairs).filterMap Finding.warning?,
        decide (e.severity = .warn) = true := by
      intro e he
      obtain ⟨f, -, hf⟩ := List.mem_filterMap.1 he
      exact decide_eq_true (Finding.severity_warning hf)
    rw [ofNode, withPairs]
    simp only [List.filter_append, List.filter_eq_self.2 hall, Node.topPairs]
    simp [Log.Event.severity]
  | null | bool _ | number _ | string _ | sequence _ | tagged _ _ => rfl

/-- A store can be read from a document if it is null or a mapping and no key lies under another.
It then has the values that the document means, and the warnings name, in the order of the
document, each key that is no string and each value that is a sequence or tagged. -/
theorem ofNode_means (env : Environment) (d : Disk) (path : Path) (n : Node) :
    (∀ text, Yaml.read text = some n → ofText env d path text = ofNode env d path n) ∧
    ((∃ s, (ofNode env d path n).result = .ok s) ↔ n.IsDocument ∧
      ∀ k v k' v', (initialAt env d path).Means n.topPairs k v →
        (initialAt env d path).Means n.topPairs k' v' → ¬begins (k ++ ".") k') ∧
    (∀ s, (ofNode env d path n).result = .ok s → s.path = path ∧
      ∀ k v, s.get? k = some v ↔ (initialAt env d path).Means n.topPairs k v) ∧
    InOrder (Warns n.topPairs) ((ofNode env d path n).events.filter (·.severity = .warn)) := by
  refine ⟨?_, ?_, ?_, ?_⟩
  · intro text hread
    rw [ofText, hread]
  · simp only [result_ofNode, withPairs_eq_ok_iff, exists_and_left]
    refine and_congr_right fun _ ↦ ?_
    simp only [exists_eq_left, ← get?_overlay_found, KeyMap.mem_keys_iff,
      Option.isSome_iff_exists]
    constructor
    · intro hapart k v k' v' hv hv'
      exact hapart k ⟨v, hv⟩ k' ⟨v', hv'⟩
    · rintro hapart k ⟨v, hv⟩ k' ⟨v', hv'⟩
      exact hapart k v k' v' hv hv'
  · intro s hs
    obtain ⟨-, hresult⟩ := result_ofNode.1 hs
    obtain ⟨rfl, -⟩ := withPairs_eq_ok_iff.1 hresult
    exact ⟨rfl, fun k v ↦ get?_overlay_found _ _ k v⟩
  · rw [warnings_ofNode]
    exact Finding.inOrder_warnings n.topPairs

end Store

end ConfigKeeper
