import ConfigKeeper.Proofs.Coherence

namespace ConfigKeeper

open Yaml (Tree)

theorem Value.ofNode?_toNode (v : Value) : Value.ofNode? v.toNode = some v := by
  cases v with
  | bool b => rfl
  | string s => rfl
  | int i =>
    change some (Value.ofInt i.toInt) = _
    rw [Value.ofInt, dif_pos ⟨i.minValue_le_toInt, i.toInt_le⟩, Int64.ofIntLE_toInt]

namespace Finding

mutual

theorem warnings_toNode (key : String) : (t : Tree) → (ofNode key t.toNode).filterMap warning? = []
  | .bool _ => rfl
  | .integer _ => rfl
  | .string _ => rfl
  | .mapping pairs => by rw [Tree.toNode, ofNode, warnings_toNodes key pairs]

theorem warnings_toNodes (scope : String) : (pairs : List (String × Tree)) →
    (ofPairs scope (Tree.toNodes pairs)).filterMap warning? = []
  | [] => rfl
  | p :: rest => by
    rw [Tree.toNodes, ofPairs, List.filterMap_append, warnings_pairToNode scope p,
      warnings_toNodes scope rest]
    rfl

theorem warnings_pairToNode (scope : String) : (p : String × Tree) →
    (ofPair scope (.string p.1, Tree.pairToNode p)).filterMap warning? = []
  | (name, t) => by
    rw [Tree.pairToNode, ofPair]
    exact warnings_toNode (under scope name) t

end

end Finding

namespace Store

/-- The leaves of a tree are the values of a map, each behind the parts of its key. -/
def Spells (pairs : List (String × Tree)) (m : KeyMap Value) : Prop :=
  (Tree.leavesAll pairs).Perm (m.entries.map fun e ↦ (parts e.1, e.2.toTree))

theorem exists_spells {s : Store}
    (h : ∀ k ∈ s.values.keys, ∀ k' ∈ s.values.keys, ¬Under k k') :
    ∃ pairs, s.toTree = .ok (.mapping pairs) ∧ Tree.FullAll pairs ∧ Spells pairs s.values := by
  have hentries := pairwise_apart s.values.ordered fun a ha b hb ↦
    h _ (List.mem_map_of_mem ha) _ (List.mem_map_of_mem hb)
  obtain ⟨pairs, hall, hfull, hperm⟩ := Branch.insertAll_apart
    (show Tree.FullAll [] from trivial) hentries (by simp [Tree.leavesAll])
  rw [Tree.leavesAll, List.append_nil] at hperm
  exact ⟨pairs, by rw [toTree, hall], hfull, hperm⟩

theorem toText_of_apart {s : Store}
    (h : ∀ k ∈ s.values.keys, ∀ k' ∈ s.values.keys, ¬Under k k') :
    ∃ text, s.toText = .ok text := by
  obtain ⟨pairs, htree, -, -⟩ := exists_spells h
  exact ⟨(Tree.mapping pairs).render, by rw [toText, htree]⟩

section Spells

variable {pairs : List (String × Tree)} {m : KeyMap Value}

theorem Spells.settings (h : Spells pairs m) :
    ((Yaml.Node.entriesAll (Tree.toNodes pairs)).filterMap (Finding.settingOf? "")).Perm
      (m.entries.map fun e ↦ (Finding.keyOf (parts e.1), e.2)) := by
  rw [Yaml.Node.entriesAll_toNodes, List.filterMap_map]
  refine (h.filterMap _).trans (.of_eq ?_)
  rw [List.filterMap_map, ← List.filterMap_eq_map]
  congr 1
  funext e
  change (Value.ofNode? e.2.toNode).map _ = _
  rw [Value.ofNode?_toNode]
  rfl

theorem Spells.mem_found (h : Spells pairs m) {k : String} :
    k ∈ (found (Tree.toNodes pairs)).keys ↔ ∃ k' ∈ m.keys, Finding.keyOf (parts k') = k := by
  rw [found, KeyMap.mem_keys_ofList, (h.settings.map _).mem_iff]
  simp [KeyMap.keys]

theorem Spells.not_begins (h : Spells pairs m) (hsmall : ∀ k ∈ m.keys, Text.Small k) {k : String}
    (hk : k ∈ (found (Tree.toNodes pairs)).keys) : ¬begins "." k := by
  obtain ⟨k', hk', rfl⟩ := h.mem_found.1 hk
  refine Finding.not_begins_keyOf ?_
  intro name hname
  refine ⟨small_of_mem_parts (hsmall _ hk') hname, ?_⟩
  intro hdot
  exact (mem_of_mem_parts hname hdot).2 rfl

theorem Spells.found_eq_iff (h : Spells pairs m) (hsmall : ∀ k ∈ m.keys, Text.Small k) :
    found (Tree.toNodes pairs) = m ↔ ∀ k ∈ m.keys, ¬begins "." k := by
  constructor
  · intro heq k hk
    exact h.not_begins hsmall (heq ▸ hk)
  · intro hdot
    refine KeyMap.ofList_perm (h.settings.trans (.of_eq ?_))
    refine (List.map_congr_left fun e he ↦ ?_).trans (List.map_id _)
    have hk : e.1 ∈ m.keys := List.mem_map_of_mem he
    rw [Finding.keyOf_parts (hsmall _ hk) (hdot _ hk)]
    rfl

end Spells

/-- The nested form of a map in small letters is taken apart without a warning, and gives the map
again just if no key begins with a dot. -/
theorem flattened_eq_iff {s : Store} (hlower : ∀ k ∈ s.values.keys, Text.lower k = k)
    (hapart : ∀ k ∈ s.values.keys, ∀ k' ∈ s.values.keys, ¬begins (k ++ ".") k') :
    ∃ pairs, s.toTree = .ok (.mapping pairs) ∧
      (Finding.ofPairs "" (Tree.toNodes pairs)).filterMap Finding.warning? = [] ∧
      (KeyMap.ofList ((Finding.ofPairs "" (Tree.toNodes pairs)).filterMap Finding.setting?) =
        s.values ↔ ∀ k ∈ s.values.keys, ¬begins "." k) := by
  obtain ⟨pairs, htree, -, hspells⟩ := exists_spells hapart
  have hsmall : ∀ k ∈ s.values.keys, Text.Small k := by
    intro k hk
    rw [← hlower k hk]
    exact Text.small_lower k
  refine ⟨pairs, htree, Finding.warnings_toNodes "" pairs, ?_⟩
  rw [Finding.settings_ofPairs]
  exact hspells.found_eq_iff hsmall

/-- Keys with empty parts inside, at the end, and alone. -/
def sparse : Store where
  path := ⟨[99]⟩
  values.entries := [("", .string ""), ("a..b", .int 1), ("c.", .bool true)]
  values.ordered := by decide

theorem flattened_sparse : ∃ pairs, sparse.toTree = .ok (.mapping pairs) ∧
    KeyMap.ofList ((Finding.ofPairs "" (Tree.toNodes pairs)).filterMap Finding.setting?) =
      sparse.values := by
  have hlower : ∀ k ∈ sparse.values.keys, Text.lower k = k := by decide
  have hapart : ∀ k ∈ sparse.values.keys, ∀ k' ∈ sparse.values.keys, ¬begins (k ++ ".") k' := by
    decide
  obtain ⟨pairs, htree, -, hiff⟩ := flattened_eq_iff hlower hapart
  exact ⟨pairs, htree, hiff.2 (by decide)⟩

end Store

end ConfigKeeper
