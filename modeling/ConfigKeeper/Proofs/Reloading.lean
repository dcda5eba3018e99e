import ConfigKeeper.Proofs.Files
import ConfigKeeper.Proofs.Nesting

namespace ConfigKeeper

namespace Yaml.Tree

theorem read_render (t : Tree) : read t.render = readChars t.chars := by
  rw [read, render, String.toList_ofList]

/-- The text of the tree is read as the tree, unless it nests deeper than a document may. -/
def ReadsBack (t : Tree) : Prop :=
  read t.render = if t.depth ≤ Node.maxDepth then some t.toNode else none

theorem readsBack_iff (t : Tree) : t.ReadsBack ↔
    readChars t.chars = if t.depth ≤ Node.maxDepth then some t.toNode else none := by
  rw [ReadsBack, read_render]

instance (t : Tree) : Decidable t.ReadsBack := decidable_of_iff' _ (readsBack_iff t)

end Yaml.Tree

namespace Store

open Yaml (Tree)

def ReadsBack (s : Store) : Prop := ∀ t, s.toTree = .ok t → t.ReadsBack

instance (s : Store) : Decidable s.ReadsBack :=
  match h : s.toTree with
  | .ok t => decidable_of_iff t.ReadsBack
    ⟨fun ht u hu ↦ by rwa [← Except.ok.inj (h.symm.trans hu)], fun hs ↦ hs t h⟩
  | .error _ => isTrue fun t ht ↦ by cases h.symm.trans ht

/-- The nested form of a store: its leaves are the values, each behind the parts of its key. -/
structure Nested (s : Store) (pairs : List (String × Tree)) : Prop where
  toTree : s.toTree = .ok (.mapping pairs)
  full : (Tree.mapping pairs).Full
  leaves : (Tree.leavesAll pairs).Perm (s.values.entries.map fun e ↦ (parts e.1, e.2.toTree))

theorem Coherent.exists_nested {s : Store} (hs : s.Coherent) : ∃ pairs, s.Nested pairs := by
  obtain ⟨pairs, htree, hfull, hspells⟩ := exists_spells hs.apart
  refine ⟨pairs, htree, ⟨?_, hfull⟩, hspells⟩
  rintro rfl
  have hknown := hs.known _ (List.mem_map_of_mem Key.verbose.mem_all)
  obtain ⟨e, he, -⟩ := List.mem_map.1 hknown
  rw [List.map_eq_nil_iff.1 (List.nil_perm.1 hspells)] at he
  exact List.not_mem_nil he

section Nested

variable {s : Store} {pairs : List (String × Tree)}

theorem Nested.toText (h : s.Nested pairs) : s.toText = .ok (Tree.mapping pairs).render := by
  rw [Store.toText, h.toTree]

/-- The nested form is as deep as the longest key has parts. -/
theorem Nested.depth_le_iff (h : s.Nested pairs) (n : Nat) :
    (Tree.mapping pairs).depth ≤ n ↔ ∀ k ∈ s.values.keys, (parts k).length ≤ n := by
  rw [Tree.depth_le_iff n _ h.full, Tree.leaves]
  simp only [h.leaves.mem_iff, KeyMap.keys, List.forall_mem_map]

theorem Nested.read_eq (h : s.Nested pairs) (hback : s.ReadsBack) :
    Yaml.read (Tree.mapping pairs).render =
      if ∀ k ∈ s.values.keys, (parts k).length ≤ Yaml.Node.maxDepth then
        some (.mapping (Tree.toNodes pairs))
      else none := by
  simp only [← h.depth_le_iff]
  exact hback _ h.toTree

theorem Nested.spells (h : s.Nested pairs) : Spells pairs s.values := h.leaves

end Nested

theorem not_begins_name (key : Key) : ¬begins "." key.name := by cases key <;> decide

/-- A document may nest as deep as the key has parts, and none of the leading ones is empty. -/
def Readable (k : String) : Prop := ¬begins "." k ∧ (parts k).length ≤ Yaml.Node.maxDepth

instance (k : String) : Decidable (Readable k) :=
  inferInstanceAs (Decidable (¬begins "." k ∧ (parts k).length ≤ Yaml.Node.maxDepth))

variable {env env' : Environment} {d d' : Disk} {path : Path} {text : String} {s : Store}

theorem Coherent.read_render (hs : s.Coherent) (hkeys : ∀ k ∈ s.values.keys, Readable k)
    (hback : s.ReadsBack) {t : Tree} (ht : s.toTree = .ok t) :
    Yaml.read t.render = some t.toNode := by
  obtain ⟨pairs, hpairs⟩ := hs.exists_nested
  have hread := hpairs.read_eq hback
  rw [if_pos fun k hk ↦ (hkeys k hk).2] at hread
  rw [hpairs.toTree, Except.ok.injEq] at ht
  rw [← ht]
  exact hread

theorem Coherent.reload (hs : s.Coherent) (hkeys : ∀ k ∈ s.values.keys, Readable k)
    (hback : s.ReadsBack) (env : Environment) (d : Disk) :
    ∃ t, s.toText = .ok t ∧ (ofText env d s.path t).result = .ok s := by
  obtain ⟨pairs, hpairs⟩ := hs.exists_nested
  refine ⟨_, hpairs.toText, ?_⟩
  rw [ofText_of_mapping (hs.read_render hkeys hback hpairs.toTree)]
  apply withPairs_eq_ok_iff.2
  refine ⟨?_, hs.apart⟩
  have hfound := (hpairs.spells.found_eq_iff hs.small).2 fun k hk ↦ (hkeys k hk).1
  have hover : (initialAt env d s.path).values.overlay s.values = s.values :=
    KeyMap.overlay_eq_right fun k hk ↦ hs.known k (mem_keys_initialValues.1 hk)
  rw [hfound, hover, initialAt]

theorem Coherent.load (hs : s.Coherent) (hkeys : ∀ k ∈ s.values.keys, Readable k)
    (hback : s.ReadsBack) (hsaved : s.Saved d) (env : Environment) :
    (load env d s.path).result = .ok s := by
  obtain ⟨text, htext, hread⟩ := hsaved
  obtain ⟨t, ht, hreload⟩ := hs.reload hkeys hback env d
  rw [htext, Except.ok.injEq] at ht
  rw [load_of_readText env hread, ht]
  exact hreload

/-- Whatever store is read from the nested form of another, its keys can be read again. -/
theorem Nested.readable_of_ofText {t : Store} {pairs : List (String × Tree)} (h : s.Nested pairs)
    (hs : s.Coherent) (hback : s.ReadsBack)
    (hread : (ofText env d path (Tree.mapping pairs).render).result = .ok t) :
    (∀ k ∈ t.values.keys, ¬begins "." k) ∧
      ∀ k ∈ s.values.keys, (parts k).length ≤ Yaml.Node.maxDepth := by
  have heq := h.read_eq hback
  split at heq
  · next hlength =>
    refine ⟨fun k hk ↦ ?_, hlength⟩
    rw [ofText_of_mapping heq] at hread
    rw [(withPairs_eq_ok_iff.1 hread).1] at hk
    rcases KeyMap.mem_keys_overlay.1 hk with hk | hk
    · exact h.spells.not_begins hs.small hk
    · obtain ⟨key, -, rfl⟩ := List.mem_map.1 (mem_keys_initialValues.1 hk)
      exact not_begins_name key
  · rw [ofText, heq] at hread
    cases hread

/-- Every store that can be read can be written, and what was written means the same store again
just if no key begins with a dot or has more parts than mappings may nest. -/
theorem reload_iff (h : (ofText env d path text).result = .ok s) (hback : s.ReadsBack) :
    ∃ t, s.toText = .ok t ∧
      ((ofText env' d' path t).result = .ok s ↔ ∀ k ∈ s.values.keys, Readable k) := by
  have hs := coherent_of_ofText h
  obtain ⟨pairs, hpairs⟩ := hs.exists_nested
  refine ⟨_, hpairs.toText, fun hagain ↦ ?_, fun hkeys ↦ ?_⟩
  · obtain ⟨hdot, hlength⟩ := hpairs.readable_of_ofText hs hback hagain
    exact fun k hk ↦ ⟨hdot k hk, hlength k hk⟩
  · obtain ⟨t, ht, hreload⟩ := hs.reload hkeys hback env' d'
    rw [hpairs.toText, Except.ok.injEq] at ht
    rw [← ofText_path h, ht]
    exact hreload

/-- The store of a new file `c`. -/
def fresh : Store where
  path := ⟨[99]⟩
  values.entries := [("authproxy.certfile", .string "server.pem"),
    ("authproxy.keyfile", .string "server.key"), ("authproxy.logdir", .string "log"),
    ("authproxy.proxyaddress", .string "127.0.0.1"), ("authproxy.proxyport", .string "8084"),
    ("authproxy.verbose", .bool false), ("binarypaths.gcloud", .string ""),
    ("binarypaths.kubectl", .string ""), ("logging.disableleveltruncation", .bool true),
    ("logging.format", .string "text"), ("logging.level", .string "info"),
    ("logging.padleveltext", .bool true)]
  values.ordered := by decide

def dotted : Store := { fresh with values := fresh.values.insert ".a" (.int 1) }

theorem dotted_not_reloaded : (ofText {} ⟨[], []⟩ ⟨[99]⟩ ".a: 1\n").result = .ok dotted ∧
    dotted.ReadsBack ∧ ∃ t, dotted.toText = .ok t ∧
      (ofText {} ⟨[], []⟩ ⟨[99]⟩ t).result ≠ .ok dotted := by
  have hload : (ofText {} ⟨[], []⟩ ⟨[99]⟩ ".a: 1\n").result = .ok dotted := by decide +kernel
  have hback : dotted.ReadsBack := by decide +kernel
  obtain ⟨t, ht, hiff⟩ := reload_iff hload hback
  refine ⟨hload, hback, t, ht, fun hagain ↦ ?_⟩
  have hkey := hiff.1 hagain ".a" (by decide)
  exact hkey.1 (by decide)

end Store

end ConfigKeeper
