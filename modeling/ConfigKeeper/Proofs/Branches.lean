import ConfigKeeper.Proofs.KeyMaps
import ConfigKeeper.Proofs.Leaves

namespace ConfigKeeper

/-- Neither of two lists of names begins with the other. -/
def Apart (p q : List String) : Prop := ¬p <+: q ∧ ¬q <+: p

theorem apart_cons {name : String} {p q : List String} :
    Apart (name :: p) (name :: q) ↔ Apart p q := by
  simp [Apart]

theorem apart_of_not_under {k k' : String} (hne : k ≠ k') (h : ¬Under k k') (h' : ¬Under k' k) :
    Apart (parts k) (parts k') :=
  ⟨fun hp ↦ h (under_of_isPrefix hne hp), fun hp ↦ h' (under_of_isPrefix hne.symm hp)⟩

theorem pairwise_apart {entries : List (String × Value)}
    (hordered : entries.Pairwise fun a b ↦ a.1 < b.1)
    (h : ∀ a ∈ entries, ∀ b ∈ entries, ¬Under a.1 b.1) :
    entries.Pairwise fun a b ↦ Apart (parts a.1) (parts b.1) := by
  refine hordered.imp_of_mem ?_
  intro a b ha hb hlt
  have hne : a.1 ≠ b.1 := fun he ↦ String.lt_irrefl _ (he ▸ hlt)
  exact apart_of_not_under hne (h a ha b hb) (h b hb a ha)

namespace Branch

open Yaml Tree

theorem set_of_lookup_eq_none {name : String} {pairs : List (String × Tree)} (t : Tree)
    (h : pairs.lookup name = none) : set name t pairs = pairs ++ [(name, t)] := by
  induction pairs with
  | nil => rfl
  | cons p rest ih =>
    obtain ⟨other, u⟩ := p
    rw [List.lookup_cons] at h
    split at h
    · cases h
    · next hne =>
      have hne : ¬other = name := fun he ↦ beq_eq_false_iff_ne.1 hne he.symm
      rw [set, if_neg hne, ih h]
      rfl

theorem set_of_lookup_eq_some {name : String} {pairs : List (String × Tree)} {old : Tree}
    (h : pairs.lookup name = some old) : ∃ before after,
      pairs = before ++ (name, old) :: after ∧
        ∀ t, set name t pairs = before ++ (name, t) :: after := by
  induction pairs with
  | nil => cases h
  | cons p rest ih =>
    obtain ⟨other, u⟩ := p
    by_cases he : other = name
    · subst he
      rw [List.lookup_cons_self, Option.some_inj] at h
      subst h
      exact ⟨[], rest, rfl, fun t ↦ by rw [set, if_pos rfl]; rfl⟩
    · have hb : (name == other) = false := beq_eq_false_iff_ne.2 fun heq ↦ he heq.symm
      rw [List.lookup_cons, hb] at h
      obtain ⟨before, after, rfl, hset⟩ := ih h
      refine ⟨(other, u) :: before, after, rfl, fun t ↦ ?_⟩
      rw [set, if_neg he, hset]
      rfl

theorem mem_of_lookup {name : String} {pairs : List (String × Tree)} {t : Tree}
    (h : pairs.lookup name = some t) : (name, t) ∈ pairs := by
  obtain ⟨before, after, rfl, -⟩ := List.lookup_eq_some_iff.1 h
  simp

theorem exists_leaf_of_lookup {name : String} {pairs : List (String × Tree)} {t : Tree}
    (hfull : FullAll pairs) (h : pairs.lookup name = some t) :
    ∃ m ∈ t.leaves, (name :: m.1, m.2) ∈ leavesAll pairs := by
  have hmem := mem_of_lookup h
  obtain ⟨m, hm⟩ := List.exists_mem_of_ne_nil _ (leaves_ne_nil t (fullAll_iff.1 hfull _ hmem))
  exact ⟨m, hm, mem_leavesAll.2 ⟨name, t, hmem, m, hm, rfl⟩⟩

theorem fullAll_set {name : String} {pairs : List (String × Tree)} {t : Tree}
    (hfull : FullAll pairs) (ht : t.Full) : FullAll (set name t pairs) := by
  induction pairs with
  | nil => exact ⟨ht, trivial⟩
  | cons p rest ih =>
    rw [set]
    split
    · exact ⟨ht, hfull.2⟩
    · exact ⟨hfull.1, ih hfull.2⟩

/-- If a tree takes the place of another and has one leaf more, so has the whole. -/
theorem leavesAll_set {name : String} {pairs : List (String × Tree)} {t : Tree}
    {l : List String × Tree} (h : ∀ old, pairs.lookup name = some old →
      t.leaves.Perm (l :: old.leaves)) (hnone : pairs.lookup name = none → t.leaves = [l]) :
    (leavesAll (set name t pairs)).Perm ((name :: l.1, l.2) :: leavesAll pairs) := by
  cases hlookup : pairs.lookup name with
  | none =>
    rw [set_of_lookup_eq_none t hlookup, leavesAll_append, leavesAll, leavesAll, leavesOf,
      hnone hlookup]
    exact List.perm_append_comm
  | some old =>
    obtain ⟨before, after, rfl, hset⟩ := set_of_lookup_eq_some hlookup
    rw [hset, leavesAll_append, leavesAll_append, leavesAll, leavesAll, leavesOf, leavesOf]
    have hmap := (h old hlookup).map fun m ↦ (name :: m.1, m.2)
    exact ((hmap.append_right _).append_left _).trans List.perm_middle

theorem insert_single (value : Tree) (name : String) (pairs : List (String × Tree)) :
    insert value [name] pairs = match pairs.lookup name with
      | some (.mapping _) => none
      | _ => some (set name value pairs) := rfl

theorem insert_cons_cons (value : Tree) (first second : String) (rest : List String)
    (pairs : List (String × Tree)) :
    insert value (first :: second :: rest) pairs = match pairs.lookup first with
      | none => (insert value (second :: rest) []).map fun child ↦
          set first (.mapping child) pairs
      | some (.mapping inner) => (insert value (second :: rest) inner).map fun child ↦
          set first (.mapping child) pairs
      | some _ => none := rfl

theorem ne_nil_of_leavesAll_perm {pairs : List (String × Tree)} {l : List String × Tree}
    {rest : List (List String × Tree)} (h : (leavesAll pairs).Perm (l :: rest)) : pairs ≠ [] := by
  rintro rfl
  exact List.cons_ne_nil _ _ (List.nil_perm.1 h)

/-- A value that stands where a longer key would have to go on is a leaf in its way. -/
theorem mapping_of_lookup {first : String} {rest : List String} {pairs : List (String × Tree)}
    (hfull : FullAll pairs) (hapart : ∀ l ∈ leavesAll pairs, Apart l.1 (first :: rest)) {t : Tree}
    (h : pairs.lookup first = some t) : ∃ inner, t = .mapping inner := by
  obtain ⟨m, hm, hleaf⟩ := exists_leaf_of_lookup hfull h
  cases t with
  | mapping inner => exact ⟨inner, rfl⟩
  | bool _ | integer _ | string _ =>
    have hm : m.1 = [] := by
      simp only [leaves, List.mem_singleton] at hm
      rw [hm]
    rw [hm] at hleaf
    exact absurd (List.prefix_append [first] rest) (hapart _ hleaf).1

/-- A key apart from all leaves is inserted without fail, and its value is the only new leaf. -/
theorem insert_apart {value : Tree} (hleaf : value.leaves = [([], value)]) (hvalue : value.Full)
    {path : List String} (hne : path ≠ []) {pairs : List (String × Tree)} (hfull : FullAll pairs)
    (hapart : ∀ l ∈ leavesAll pairs, Apart l.1 path) :
    ∃ pairs', insert value path pairs = some pairs' ∧ FullAll pairs' ∧
      (leavesAll pairs').Perm ((path, value) :: leavesAll pairs) := by
  induction path generalizing pairs with
  | nil => exact absurd rfl hne
  | cons first rest ih =>
    cases rest with
    | nil =>
      have hnone : pairs.lookup first = none := by
        rw [Option.eq_none_iff_forall_ne_some]
        intro t ht
        obtain ⟨m, -, hm⟩ := exists_leaf_of_lookup hfull ht
        exact (hapart _ hm).2 (List.prefix_append [first] m.1)
      refine ⟨set first value pairs, by rw [insert_single, hnone],
        fullAll_set hfull hvalue, ?_⟩
      exact leavesAll_set (l := ([], value)) (fun old hold ↦ by simp [hnone] at hold)
        fun _ ↦ hleaf
    | cons second rest =>
      cases hlookup : pairs.lookup first with
      | none =>
        obtain ⟨child, hchild, hfullChild, hperm⟩ :=
          ih (List.cons_ne_nil _ _) (show FullAll [] from trivial) (by simp [leavesAll])
        refine ⟨set first (.mapping child) pairs, ?_,
          fullAll_set hfull ⟨ne_nil_of_leavesAll_perm hperm, hfullChild⟩, ?_⟩
        · rw [insert_cons_cons, hlookup]
          simp only [hchild, Option.map_some]
        · refine leavesAll_set (l := (second :: rest, value)) (fun old hold ↦ ?_) fun _ ↦ ?_
          · rw [hlookup] at hold
            cases hold
          · exact List.perm_singleton.1 hperm
      | some t =>
        obtain ⟨inner, rfl⟩ := mapping_of_lookup hfull hapart hlookup
        have hmem := mem_of_lookup hlookup
        have hinner : FullAll inner := (fullAll_iff.1 hfull _ hmem).2
        have hapartInner : ∀ l ∈ leavesAll inner, Apart l.1 (second :: rest) := by
          intro l hl
          exact apart_cons.1 (hapart (first :: l.1, l.2)
            (mem_leavesAll.2 ⟨first, .mapping inner, hmem, l, hl, rfl⟩))
        obtain ⟨child, hchild, hfullChild, hperm⟩ :=
          ih (List.cons_ne_nil _ _) hinner hapartInner
        refine ⟨set first (.mapping child) pairs, ?_,
          fullAll_set hfull ⟨ne_nil_of_leavesAll_perm hperm, hfullChild⟩, ?_⟩
        · rw [insert_cons_cons, hlookup]
          simp only [hchild, Option.map_some]
        · refine leavesAll_set (l := (second :: rest, value)) (fun old hold ↦ ?_) fun hnone ↦ ?_
          · rw [hlookup, Option.some_inj] at hold
            exact hold ▸ hperm
          · rw [hlookup] at hnone
            cases hnone

theorem insertAll_cons (pairs : List (String × Tree)) (key : String) (value : Value)
    (rest : List (String × Value)) :
    insertAll pairs ((key, value) :: rest) = match insert value.toTree (parts key) pairs with
      | some pairs => insertAll pairs rest
      | none => .error (.clash key) := rfl

theorem leaves_toTree (v : Value) : v.toTree.leaves = [([], v.toTree)] := by cases v <;> rfl

theorem full_toTree (v : Value) : v.toTree.Full := by cases v <;> trivial

theorem insertAll_apart {entries : List (String × Value)} {pairs : List (String × Tree)}
    (hfull : FullAll pairs)
    (hentries : entries.Pairwise fun a b ↦ Apart (parts a.1) (parts b.1))
    (hpairs : ∀ e ∈ entries, ∀ l ∈ leavesAll pairs, Apart l.1 (parts e.1)) :
    ∃ pairs', insertAll pairs entries = .ok pairs' ∧ FullAll pairs' ∧
      (leavesAll pairs').Perm
        (entries.map (fun e ↦ (parts e.1, e.2.toTree)) ++ leavesAll pairs) := by
  induction entries generalizing pairs with
  | nil => exact ⟨pairs, rfl, hfull, .refl _⟩
  | cons e rest ih =>
    obtain ⟨key, value⟩ := e
    obtain ⟨hkey, hrest⟩ := List.pairwise_cons.1 hentries
    obtain ⟨next, hinsert, hfullNext, hperm⟩ := insert_apart (leaves_toTree value)
      (full_toTree value) (parts_ne_nil key) hfull (hpairs _ List.mem_cons_self)
    have hnext : ∀ e ∈ rest, ∀ l ∈ leavesAll next, Apart l.1 (parts e.1) := by
      intro e he l hl
      rcases List.mem_cons.1 (hperm.mem_iff.1 hl) with rfl | hl
      · exact hkey e he
      · exact hpairs e (List.mem_cons_of_mem _ he) l hl
    obtain ⟨pairs', hall, hfull', hperm'⟩ := ih hfullNext hrest hnext
    refine ⟨pairs', ?_, hfull', ?_⟩
    · rw [insertAll_cons, hinsert]
      exact hall
    · exact (hperm'.trans (hperm.append_left _)).trans List.perm_middle

end Branch

end ConfigKeeper
