import ConfigKeeper.Proofs.Entries

namespace ConfigKeeper

namespace Key

theorem mem_all (key : Key) : key ∈ all := by cases key <;> decide

theorem small_name (key : Key) : Text.Small key.name := by cases key <;> decide

theorem lower_name (key : Key) : Text.lower key.name = key.name := (small_name key).lower_eq

theorem not_under_names : ∀ k ∈ names, ∀ k' ∈ names, ¬Under k k' := by
  unfold Under
  decide

end Key

namespace Store

structure Coherent (s : Store) : Prop where
  known : ∀ k ∈ Key.names, k ∈ s.values.keys
  small : ∀ k ∈ s.values.keys, Text.Small k
  apart : ∀ k ∈ s.values.keys, ∀ k' ∈ s.values.keys, ¬Under k k'

theorem mem_keys_initialValues {env : Environment} {d : Disk} {folder : Path} {k : String} :
    k ∈ (initialValues env d folder).keys ↔ k ∈ Key.names := by
  rw [initialValues, KeyMap.mem_keys_ofList, List.map_map]
  rfl

theorem coherent_initialAt (env : Environment) (d : Disk) (path : Path) :
    (initialAt env d path).Coherent where
  known k hk := mem_keys_initialValues.2 hk
  small k hk := by
    obtain ⟨key, -, rfl⟩ := List.mem_map.1 (mem_keys_initialValues.1 hk)
    exact key.small_name
  apart k hk k' hk' :=
    Key.not_under_names k (mem_keys_initialValues.1 hk) k' (mem_keys_initialValues.1 hk')

/-- The values found in a document, the last one of a key counting. -/
def found (pairs : List (Yaml.Node × Yaml.Node)) : KeyMap Value :=
  .ofList ((Yaml.Node.entriesAll pairs).filterMap (Finding.settingOf? ""))

theorem small_of_mem_found {pairs : List (Yaml.Node × Yaml.Node)} {k : String}
    (h : k ∈ (found pairs).keys) : Text.Small k := by
  rw [found, KeyMap.mem_keys_ofList] at h
  obtain ⟨⟨_, v⟩, hv, rfl⟩ := List.mem_map.1 h
  obtain ⟨e, -, he⟩ := List.mem_filterMap.1 hv
  rw [Finding.settingOf?, Option.map_eq_some_iff] at he
  obtain ⟨w, -, he⟩ := he
  cases he
  exact Finding.small_foldl_under (by decide) e.1

theorem withPairs_result (s : Store) (pairs : List (Yaml.Node × Yaml.Node)) :
    (s.withPairs pairs).result =
      match conflict? (s.values.overlay (found pairs)).keys with
      | some (parent, child) => .error (.document (.nested parent child))
      | none => .ok { s with values := s.values.overlay (found pairs) } := by
  rw [found, ← Finding.settings_ofPairs]
  rfl

theorem withPairs_eq_ok_iff {s t : Store} {pairs : List (Yaml.Node × Yaml.Node)} :
    (s.withPairs pairs).result = .ok t ↔
      t = { s with values := s.values.overlay (found pairs) } ∧
        ∀ k ∈ t.values.keys, ∀ k' ∈ t.values.keys, ¬Under k k' := by
  rw [withPairs_result]
  cases h : conflict? (s.values.overlay (found pairs)).keys with
  | none =>
    have hnone := (conflict?_eq_none_iff (KeyMap.keys_ordered _)).1 h
    simp only [Except.ok.injEq]
    constructor
    · rintro rfl
      exact ⟨rfl, hnone⟩
    · rintro ⟨rfl, -⟩
      rfl
  | some pair =>
    simp only [reduceCtorEq, false_iff]
    rintro ⟨rfl, happart⟩
    rw [(conflict?_eq_none_iff (KeyMap.keys_ordered _)).2 happart] at h
    cases h

theorem Coherent.of_withPairs {s t : Store} (hs : s.Coherent)
    {pairs : List (Yaml.Node × Yaml.Node)} (h : (s.withPairs pairs).result = .ok t) :
    t.Coherent := by
  obtain ⟨rfl, happart⟩ := withPairs_eq_ok_iff.1 h
  refine ⟨fun k hk ↦ KeyMap.mem_keys_overlay.2 (Or.inr (hs.known k hk)), fun k hk ↦ ?_, happart⟩
  rcases KeyMap.mem_keys_overlay.1 hk with hk | hk
  · exact small_of_mem_found hk
  · exact hs.small k hk

theorem ofText_eq_ok {env : Environment} {d : Disk} {path : Path} {text : String} {s : Store}
    (h : (ofText env d path text).result = .ok s) :
    (Yaml.read text = some .null ∧ s = initialAt env d path) ∨
      ∃ pairs, Yaml.read text = some (.mapping pairs) ∧
        ((initialAt env d path).withPairs pairs).result = .ok s := by
  rw [ofText] at h
  cases hread : Yaml.read text with
  | none =>
    rw [hread] at h
    cases h
  | some n =>
    rw [hread] at h
    cases n with
    | null =>
      cases h
      exact Or.inl ⟨rfl, rfl⟩
    | mapping pairs => exact Or.inr ⟨pairs, rfl, h⟩
    | bool _ | number _ | string _ | sequence _ | tagged _ _ => cases h

theorem ofText_of_mapping {text : String} {pairs : List (Yaml.Node × Yaml.Node)}
    (h : Yaml.read text = some (.mapping pairs)) (env : Environment) (d : Disk) (path : Path) :
    ofText env d path text = (initialAt env d path).withPairs pairs := by
  rw [ofText, h]
  rfl

theorem ofText_path {env : Environment} {d : Disk} {path : Path} {text : String} {s : Store}
    (h : (ofText env d path text).result = .ok s) : s.path = path := by
  rcases ofText_eq_ok h with ⟨-, rfl⟩ | ⟨pairs, -, h⟩
  · rfl
  · obtain ⟨rfl, -⟩ := withPairs_eq_ok_iff.1 h
    rfl

theorem load_eq_ok {env : Environment} {d : Disk} {path : Path} {s : Store}
    (h : (load env d path).result = .ok s) :
    ∃ text, d.readText path = .ok text ∧ (ofText env d path text).result = .ok s := by
  rw [load] at h
  split at h
  · next text htext => exact ⟨text, htext, h⟩
  · cases h

/-- Whatever a text holds, a store that can be read from it is coherent. -/
theorem coherent_of_ofText {env : Environment} {d : Disk} {path : Path} {text : String} {s : Store}
    (h : (ofText env d path text).result = .ok s) : s.Coherent := by
  rcases ofText_eq_ok h with ⟨-, rfl⟩ | ⟨pairs, -, h⟩
  · exact coherent_initialAt env d path
  · exact (coherent_initialAt env d path).of_withPairs h

theorem coherent_of_load {env : Environment} {d : Disk} {path : Path} {s : Store}
    (h : (load env d path).result = .ok s) : s.Coherent := by
  obtain ⟨text, -, hread⟩ := load_eq_ok h
  exact coherent_of_ofText hread

theorem put_name (s : Store) (key : Key) (v : Value) :
    s.put key.name v = { s with values := s.values.insert key.name v } := by
  rw [put, key.lower_name]

theorem Coherent.mem_keys_put {s : Store} (hs : s.Coherent) {key : Key} {v : Value} {k : String} :
    k ∈ (s.put key.name v).values.keys ↔ k ∈ s.values.keys := by
  rw [put_name, KeyMap.mem_keys_insert, or_iff_right_iff_imp]
  rintro rfl
  exact hs.known _ (List.mem_map_of_mem key.mem_all)

theorem Coherent.put {s : Store} (hs : s.Coherent) (key : Key) (v : Value) :
    (s.put key.name v).Coherent where
  known k hk := hs.mem_keys_put.2 (hs.known k hk)
  small k hk := hs.small k (hs.mem_keys_put.1 hk)
  apart k hk k' hk' := hs.apart k (hs.mem_keys_put.1 hk) k' (hs.mem_keys_put.1 hk')

end Store

end ConfigKeeper
