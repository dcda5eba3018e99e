import ConfigKeeper.KeyMap

namespace ConfigKeeper

variable {α : Type}

/-- Where no key occurs twice, looking a key up finds its entry. -/
theorem lookup_eq_some_iff_mem {entries : List (String × α)} (h : (entries.map (·.1)).Nodup)
    {k : String} {a : α} : entries.lookup k = some a ↔ (k, a) ∈ entries := by
  induction entries with
  | nil => simp
  | cons e rest ih =>
    obtain ⟨name, b⟩ := e
    obtain ⟨hname, hrest⟩ := List.nodup_cons.1 h
    rw [List.lookup_cons, List.mem_cons, Prod.mk.injEq]
    by_cases hk : k = name
    · subst hk
      have hnot : (k, a) ∉ rest := fun hmem ↦ hname (List.mem_map_of_mem (f := (·.1)) hmem)
      simp [hnot, eq_comm]
    · have hb : (k == name) = false := beq_eq_false_iff_ne.2 hk
      simp [hb, hk, ih hrest]

namespace KeyMap

variable (m n : KeyMap α)

theorem keys_ordered : m.keys.Pairwise (· < ·) := List.pairwise_map.2 m.ordered

theorem keys_nodup : (m.entries.map (·.1)).Nodup := by
  rw [List.nodup_iff_pairwise_ne]
  refine m.keys_ordered.imp ?_
  rintro a b hlt rfl
  exact String.lt_irrefl a hlt

theorem entries_nodup : m.entries.Nodup := by
  rw [List.nodup_iff_pairwise_ne]
  refine m.ordered.imp ?_
  rintro a b hlt rfl
  exact String.lt_irrefl a.1 hlt

variable {m n}

theorem get?_eq_some_iff {k : String} {a : α} : m.get? k = some a ↔ (k, a) ∈ m.entries :=
  lookup_eq_some_iff_mem m.keys_nodup

theorem mem_keys_iff {k : String} : k ∈ m.keys ↔ (m.get? k).isSome := by
  rw [Option.isSome_iff_exists, keys, List.mem_map]
  constructor
  · rintro ⟨⟨name, a⟩, he, rfl⟩
    exact ⟨a, get?_eq_some_iff.2 he⟩
  · intro ⟨a, ha⟩
    exact ⟨(k, a), get?_eq_some_iff.1 ha, rfl⟩

theorem ext_get? (h : ∀ k, m.get? k = n.get? k) : m = n := by
  have hperm : m.entries.Perm n.entries := by
    rw [List.perm_ext_iff_of_nodup m.entries_nodup n.entries_nodup]
    intro e
    rw [← get?_eq_some_iff, ← get?_eq_some_iff, h]
  have heq : m.entries = n.entries :=
    hperm.eq_of_pairwise (fun a b _ _ hab hba ↦ absurd (String.lt_trans hab hba)
      (String.lt_irrefl _)) m.ordered n.ordered
  cases m
  cases n
  simpa using heq

theorem get?_insertAll (m : KeyMap α) (entries : List (String × α)) (k : String) :
    (m.insertAll entries).get? k = (entries.reverse.lookup k).or (m.get? k) := by
  induction entries generalizing m with
  | nil => rfl
  | cons e rest ih =>
    rw [insertAll, List.foldl_cons, ← insertAll, ih, List.reverse_cons, List.lookup_append,
      get?_insert, Option.or_assoc]
    congr 1
    obtain ⟨name, a⟩ := e
    by_cases hk : k = name
    · simp [hk]
    · have hb : (k == name) = false := beq_eq_false_iff_ne.2 hk
      simp [hk, hb, List.lookup_cons]

theorem get?_ofList (entries : List (String × α)) (k : String) :
    (ofList entries).get? k = entries.reverse.lookup k := by
  simp [ofList, get?_insertAll]

/-- The last entry of a key is the one that is found. -/
theorem get?_ofList_of_last {entries before after : List (String × α)} {k : String} {a : α}
    (h : entries = before ++ (k, a) :: after) (hlast : ∀ e ∈ after, e.1 ≠ k) :
    (ofList entries).get? k = some a := by
  have hnone : after.reverse.lookup k = none := by
    rw [List.lookup_eq_none_iff]
    intro e he
    rw [bne_iff_ne]
    exact (hlast e (List.mem_reverse.1 he)).symm
  rw [get?_ofList, h]
  simp [List.lookup_append, hnone]

theorem mem_keys_ofList {entries : List (String × α)} {k : String} :
    k ∈ (ofList entries).keys ↔ k ∈ entries.map (·.1) := by
  rw [mem_keys_iff, get?_ofList, List.lookup_isSome_iff, List.mem_map]
  constructor
  · intro ⟨e, he, hk⟩
    exact ⟨e, List.mem_reverse.1 he, (beq_iff_eq.1 hk).symm⟩
  · rintro ⟨e, he, rfl⟩
    exact ⟨e, List.mem_reverse.2 he, beq_self_eq_true _⟩

/-- Entries without a key that occurs twice can be put in in any order. -/
theorem ofList_perm {entries : List (String × α)} (h : entries.Perm m.entries) :
    ofList entries = m := by
  refine ext_get? fun k ↦ ?_
  have hnodup : (entries.reverse.map (·.1)).Nodup :=
    ((entries.reverse_perm.trans h).map (·.1)).nodup_iff.2 m.keys_nodup
  refine Option.ext fun a ↦ ?_
  rw [get?_ofList, lookup_eq_some_iff_mem hnodup, List.mem_reverse, h.mem_iff, get?_eq_some_iff]

theorem get?_overlay (m n : KeyMap α) (k : String) :
    (m.overlay n).get? k = (n.get? k).or (m.get? k) := by
  have hn := congrArg (·.get? k) (ofList_perm (List.Perm.refl n.entries))
  simp only [get?_ofList] at hn
  rw [overlay, get?_insertAll, hn]

theorem mem_keys_overlay {k : String} : k ∈ (m.overlay n).keys ↔ k ∈ n.keys ∨ k ∈ m.keys := by
  simp [mem_keys_iff, get?_overlay]

theorem overlay_eq_right (h : ∀ k ∈ m.keys, k ∈ n.keys) : m.overlay n = n := by
  refine ext_get? fun k ↦ ?_
  rw [get?_overlay]
  cases hn : n.get? k with
  | some a => rfl
  | none =>
    rw [Option.none_or, ← Option.not_isSome_iff_eq_none, ← mem_keys_iff]
    intro hk
    have := mem_keys_iff.1 (h k hk)
    simp [hn] at this

theorem mem_keys_insert {k key : String} {a : α} :
    k ∈ (m.insert key a).keys ↔ k = key ∨ k ∈ m.keys := by
  rw [mem_keys_iff, mem_keys_iff, get?_insert]
  by_cases hk : k = key <;> simp [hk]

theorem insert_insert (m : KeyMap α) (key : String) (a b : α) :
    (m.insert key a).insert key b = m.insert key b := by
  refine ext_get? fun k ↦ ?_
  by_cases hk : k = key <;> simp [hk]

theorem insert_comm {key other : String} (hne : key ≠ other) (m : KeyMap α) (a b : α) :
    (m.insert key a).insert other b = (m.insert other b).insert key a := by
  refine ext_get? fun k ↦ ?_
  by_cases hk : k = key
  · simp [hk, hne]
  · simp [hk]

end KeyMap

end ConfigKeeper
