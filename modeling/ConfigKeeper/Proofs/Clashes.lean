import ConfigKeeper.Proofs.Files
import ConfigKeeper.Proofs.Nesting
import ConfigKeeper.Proofs.Octets

namespace ConfigKeeper

namespace Branch

open Yaml (Tree)

theorem lookup_set (name k : String) (t : Tree) (pairs : List (String × Tree)) :
    (set name t pairs).lookup k = if k = name then some t else pairs.lookup k := by
  induction pairs with
  | nil =>
    by_cases hk : k = name
    · simp [set, hk]
    · have hb : (k == name) = false := beq_eq_false_iff_ne.2 hk
      simp [set, List.lookup_cons, hk, hb]
  | cons p rest ih =>
    obtain ⟨other, u⟩ := p
    by_cases hother : other = name
    · subst hother
      by_cases hk : k = other
      · simp [set, hk]
      · have hb : (k == other) = false := beq_eq_false_iff_ne.2 hk
        simp [set, List.lookup_cons, hk, hb]
    · by_cases hk : k = other
      · subst hk
        simp [set, hother]
      · have hb : (k == other) = false := beq_eq_false_iff_ne.2 hk
        simp only [set, hother, if_false, List.lookup_cons, hb, ih]

/-- A value, and no mapping, stands behind the names. -/
def Holds : List String → List (String × Tree) → Prop
  | [], _ => False
  | [last], pairs => ∃ v : Value, pairs.lookup last = some v.toTree
  | first :: rest, pairs => ∃ inner, pairs.lookup first = some (.mapping inner) ∧ Holds rest inner

theorem insert_eq_some {value : Tree} {first second : String} {rest : List String}
    {pairs pairs' : List (String × Tree)}
    (h : insert value (first :: second :: rest) pairs = some pairs') :
    ∃ inner child, (pairs.lookup first = none ∧ inner = [] ∨
        pairs.lookup first = some (.mapping inner)) ∧
      insert value (second :: rest) inner = some child ∧
      pairs' = set first (.mapping child) pairs := by
  rw [insert_cons_cons] at h
  cases hlookup : pairs.lookup first with
  | none =>
    rw [hlookup] at h
    obtain ⟨child, hchild, rfl⟩ := Option.map_eq_some_iff.1 h
    exact ⟨[], child, Or.inl ⟨rfl, rfl⟩, hchild, rfl⟩
  | some t =>
    rw [hlookup] at h
    cases t with
    | mapping inner =>
      obtain ⟨child, hchild, rfl⟩ := Option.map_eq_some_iff.1 h
      exact ⟨inner, child, Or.inr rfl, hchild, rfl⟩
    | bool _ | integer _ | string _ => cases h

theorem insert_of_holds {path rest : List String} (value : Tree) {pairs : List (String × Tree)}
    (h : Holds path pairs) (hrest : rest ≠ []) : insert value (path ++ rest) pairs = none := by
  obtain ⟨next, more, rfl⟩ := List.exists_cons_of_ne_nil hrest
  induction path generalizing pairs with
  | nil => exact h.elim
  | cons first path ih =>
    cases path with
    | nil =>
      obtain ⟨v, hv⟩ := h
      rw [List.cons_append, List.nil_append, insert_cons_cons, hv]
      cases v <;> rfl
    | cons second path =>
      obtain ⟨inner, hinner, hholds⟩ := h
      rw [List.cons_append, List.cons_append, insert_cons_cons, hinner]
      simp only [← List.cons_append, ih hholds, Option.map_none]

theorem holds_insert {path : List String} (hne : path ≠ []) {v : Value}
    {pairs pairs' : List (String × Tree)} (h : insert v.toTree path pairs = some pairs') :
    Holds path pairs' := by
  induction path generalizing pairs pairs' with
  | nil => exact absurd rfl hne
  | cons first rest ih =>
    cases rest with
    | nil =>
      rw [insert_single] at h
      split at h
      · cases h
      · cases h
        exact ⟨v, by rw [lookup_set, if_pos rfl]⟩
    | cons second rest =>
      obtain ⟨inner, child, -, hchild, rfl⟩ := insert_eq_some h
      refine ⟨child, ?_, ih (List.cons_ne_nil _ _) hchild⟩
      rw [lookup_set, if_pos rfl]

/-- What is inserted apart from a value leaves it where it is. -/
theorem Holds.insert {path other : List String} {value : Tree} {pairs pairs' : List (String × Tree)}
    (hholds : Holds other pairs) (hapart : Apart other path)
    (h : Branch.insert value path pairs = some pairs') : Holds other pairs' := by
  induction path generalizing other pairs pairs' with
  | nil => exact absurd List.nil_prefix hapart.2
  | cons first rest ih =>
    cases other with
    | nil => exact hholds.elim
    | cons name others =>
      -- The insertion changes nothing but what the first name leads to.
      have hkeep : ∀ t, name ≠ first → Holds (name :: others) (set first t pairs) := by
        intro t hne
        have hlookup : (set first t pairs).lookup name = pairs.lookup name := by
          rw [lookup_set, if_neg hne]
        cases others <;> simpa only [Holds, hlookup] using hholds
      cases rest with
      | nil =>
        have hne : name ≠ first := by
          rintro rfl
          exact hapart.2 (List.prefix_append [name] others)
        rw [insert_single] at h
        split at h
        · cases h
        · cases h
          exact hkeep _ hne
      | cons second rest =>
        obtain ⟨inner, child, hinner, hchild, rfl⟩ := insert_eq_some h
        by_cases hname : name = first
        · subst hname
          cases others with
          | nil => exact absurd (List.prefix_append [name] (second :: rest)) hapart.1
          | cons other others =>
            obtain ⟨inner', hlookup, hholds'⟩ := hholds
            rw [hlookup] at hinner
            obtain hinner | hinner := hinner
            · cases hinner.1
            · cases hinner
              refine ⟨child, ?_, ih hholds' (apart_cons.1 hapart) hchild⟩
              rw [lookup_set, if_pos rfl]
        · exact hkeep _ hname

theorem insertAll_append (entries others : List (String × Value)) (pairs : List (String × Tree)) :
    insertAll pairs (entries ++ others) = match insertAll pairs entries with
      | .ok next => insertAll next others
      | .error f => .error f := by
  induction entries generalizing pairs with
  | nil => rfl
  | cons e rest ih =>
    obtain ⟨key, value⟩ := e
    rw [List.cons_append, insertAll_cons, insertAll_cons]
    cases insert value.toTree (parts key) pairs with
    | none => rfl
    | some next => exact ih next

theorem holds_insertAll {entries : List (String × Value)} {pairs pairs' : List (String × Tree)}
    (hentries : entries.Pairwise fun a b ↦ Apart (parts a.1) (parts b.1))
    (h : insertAll pairs entries = .ok pairs') :
    (∀ path, Holds path pairs → (∀ e ∈ entries, Apart path (parts e.1)) → Holds path pairs') ∧
      ∀ e ∈ entries, Holds (parts e.1) pairs' := by
  induction entries generalizing pairs with
  | nil =>
    cases h
    exact ⟨fun path hholds _ ↦ hholds, fun e he ↦ absurd he List.not_mem_nil⟩
  | cons e rest ih =>
    obtain ⟨key, value⟩ := e
    obtain ⟨hkey, hrest⟩ := List.pairwise_cons.1 hentries
    rw [insertAll_cons] at h
    split at h
    · next next hinsert =>
      obtain ⟨hkept, hnew⟩ := ih hrest h
      constructor
      · intro path hholds hapart
        have hnext := hholds.insert (hapart _ List.mem_cons_self) hinsert
        exact hkept path hnext fun e he ↦ hapart e (List.mem_cons_of_mem _ he)
      · intro e he
        rcases List.mem_cons.1 he with rfl | he
        · exact hkept _ (holds_insert (parts_ne_nil key) hinsert) hkey
        · exact hnew e he
    · cases h

/-- The writer stops at the first key that lies under one before it. -/
theorem insertAll_clash {before after : List (String × Value)} {e : String × Value}
    (hbefore : before.Pairwise fun a b ↦ Apart (parts a.1) (parts b.1))
    (hunder : ∃ a ∈ before, Under a.1 e.1) :
    insertAll [] (before ++ e :: after) = .error (.clash e.1) := by
  obtain ⟨pairs, hpairs, -, -⟩ := insertAll_apart (show Tree.FullAll [] from trivial) hbefore
    (by simp [Tree.leavesAll])
  obtain ⟨a, ha, hunder⟩ := hunder
  obtain ⟨rest, hrest, hparts⟩ := under_iff.1 hunder
  have hholds := (holds_insertAll hbefore hpairs).2 a ha
  have hnone := insert_of_holds e.2.toTree hholds hrest
  rw [← hparts] at hnone
  simp only [insertAll_append, hpairs]
  obtain ⟨key, value⟩ := e
  rw [insertAll_cons, hnone]

end Branch

theorem lt_of_under {k k' : String} (h : Under k k') : k < k' := by
  obtain ⟨r, rfl⟩ := begins_iff.1 h
  have hbegins : begins k (k ++ "." ++ r) := begins_iff.2 ⟨"." ++ r, String.append_assoc⟩
  refine Std.lt_of_le_of_ne (le_of_begins hbegins) ?_
  intro heq
  have hlength := congrArg (List.length ∘ String.toList) heq
  simp at hlength

/-- The entries up to the first one whose key lies under another, which is then among them. -/
theorem exists_first_under {m : KeyMap Value} (h : ∃ k' ∈ m.keys, ∃ k ∈ m.keys, Under k k') :
    ∃ before e after, m.entries = before ++ e :: after ∧
      (∀ a ∈ before, ∀ k ∈ m.keys, ¬Under k a.1) ∧ ∃ a ∈ before, Under a.1 e.1 := by
  classical
  obtain ⟨k', hk', hunder⟩ := h
  obtain ⟨e', he', rfl⟩ := List.mem_map.1 hk'
  have hsome : (m.entries.find? fun e ↦ ∃ k ∈ m.keys, Under k e.1).isSome :=
    List.find?_isSome.2 ⟨e', he', by simpa using hunder⟩
  obtain ⟨e, he⟩ := Option.isSome_iff_exists.1 hsome
  obtain ⟨hfirst, before, after, hentries, hbefore⟩ := List.find?_eq_some_iff_append.1 he
  refine ⟨before, e, after, hentries, by simpa using hbefore, ?_⟩
  obtain ⟨k, hk, hunder⟩ : ∃ k ∈ m.keys, Under k e.1 := by simpa using hfirst
  have hkeys : m.keys = before.map (·.1) ++ e.1 :: after.map (·.1) := by
    rw [KeyMap.keys, hentries, List.map_append, List.map_cons]
  have hordered := m.keys_ordered
  rw [hkeys] at hk hordered
  have hmem : k ∈ before.map (·.1) := by
    by_contra hnot
    exact le_of_not_mem_before hordered hk hnot (lt_of_under hunder)
  obtain ⟨a, ha, rfl⟩ := List.mem_map.1 hmem
  exact ⟨a, ha, hunder⟩

/-- The first of the keys with a property, in the order of their octets. -/
structure Least (keys : List String) (p : String → Prop) (k : String) : Prop where
  mem : k ∈ keys
  has : p k
  first : ∀ k' ∈ keys, p k' → ¬Bytes.ofString k' < Bytes.ofString k

namespace Store

variable {s : Store}

theorem toText_of_under (h : ∃ k' ∈ s.values.keys, ∃ k ∈ s.values.keys, Under k k') :
    ∃ clash, s.toText = .error (.clash clash) ∧
      Least s.values.keys (fun k' ↦ ∃ k ∈ s.values.keys, Under k k') clash := by
  obtain ⟨before, e, after, hentries, hnone, a, ha, hunder⟩ := exists_first_under h
  have hkeys : s.values.keys = before.map (·.1) ++ e.1 :: after.map (·.1) := by
    rw [KeyMap.keys, hentries, List.map_append, List.map_cons]
  refine ⟨e.1, ?_, ?_, ?_, ?_⟩
  -- The entries before the first such key lie apart, so that the writer gets as far as this key.
  · have hordered := s.values.ordered
    rw [hentries] at hordered
    have hapart := pairwise_apart (List.pairwise_append.1 hordered).1 fun a ha b hb ↦
      hnone b hb a.1 (List.mem_map_of_mem (hentries ▸ List.mem_append_left _ ha))
    simp only [toText, toTree, hentries, Branch.insertAll_clash hapart ⟨a, ha, hunder⟩]
  · simp [hkeys]
  · exact ⟨a.1, List.mem_map_of_mem (hentries ▸ List.mem_append_left _ ha), hunder⟩
  · rintro k' hk' ⟨k, hk, hunder⟩
    have hordered := s.values.keys_ordered
    rw [hkeys] at hk' hordered
    rw [Bytes.ofString_lt_iff]
    refine le_of_not_mem_before hordered hk' ?_
    intro hmem
    obtain ⟨b, hb, rfl⟩ := List.mem_map.1 hmem
    exact hnone b hb k hk hunder

theorem write_of_error {f : DocumentFault} (h : s.toText = .error f) (d : Disk) :
    s.write d = ⟨.error (.persistence "Failed to write updated configuration" (.document f)), d,
      []⟩ := by
  simp only [write, save, h]

/-- The check finds a conflict just if the store cannot be written, and then it names the least key
with others under it and the least of those, and the writer the least key that lies under another
one, before anything is done to the disk. -/
theorem conflict_iff_clash (s : Store) :
    ((∃ text, s.toText = .ok text) ↔ conflict? s.values.keys = none) ∧
    (conflict? s.values.keys = none ↔
      ∀ k ∈ s.values.keys, ∀ k' ∈ s.values.keys, ¬begins (k ++ ".") k') ∧
    ∀ k ∈ s.values.keys, ∀ k' ∈ s.values.keys, begins (k ++ ".") k' →
      ∃ parent child clash, conflict? s.values.keys = some (parent, child) ∧
        Least s.values.keys (fun k ↦ ∃ k' ∈ s.values.keys, begins (k ++ ".") k') parent ∧
        Least s.values.keys (fun k' ↦ begins (parent ++ ".") k') child ∧
        Least s.values.keys (fun k' ↦ ∃ k ∈ s.values.keys, begins (k ++ ".") k') clash ∧
        s.toText = .error (.clash clash) ∧
        ∀ d, s.write d = ⟨.error (.persistence "Failed to write updated configuration"
          (.document (.clash clash))), d, []⟩ := by
  have hordered := s.values.keys_ordered
  have hnone := conflict?_eq_none_iff hordered
  refine ⟨⟨?_, fun h ↦ toText_of_apart (hnone.1 h)⟩, hnone, ?_⟩
  · rintro ⟨text, htext⟩
    refine hnone.2 ?_
    intro k hk k' hk' hunder
    obtain ⟨clash, hclash, -⟩ := toText_of_under ⟨k', hk', k, hk, hunder⟩
    rw [htext] at hclash
    cases hclash
  · intro k hk k' hk' hunder
    obtain ⟨clash, hclash, hleast⟩ := toText_of_under ⟨k', hk', k, hk, hunder⟩
    cases hconflict : conflict? s.values.keys with
    | none => exact absurd hunder (hnone.1 hconflict k hk k' hk')
    | some pair =>
      obtain ⟨parent, child⟩ := pair
      obtain ⟨⟨hparent, hle⟩, hchild, hbelow, hle'⟩ := conflict?_eq_some hordered hconflict
      refine ⟨parent, child, clash, rfl, ⟨hparent, ⟨child, hchild, hbelow⟩, ?_⟩,
        ⟨hchild, hbelow, ?_⟩, hleast, hclash, write_of_error hclash⟩
      · intro k hk hunder
        rw [Bytes.ofString_lt_iff]
        exact hle k hk hunder
      · intro k' hk' hunder
        rw [Bytes.ofString_lt_iff]
        exact hle' k' hk' hunder

end Store

end ConfigKeeper
