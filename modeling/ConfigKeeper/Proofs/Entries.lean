import ConfigKeeper.Proofs.Branches

namespace ConfigKeeper

namespace Yaml.Node

mutual

/-- The nodes that are no mappings, each with the string keys that lead to it. -/
def entries : Node → List (List String × Node)
  | .mapping pairs => entriesAll pairs
  | n => [([], n)]

def entriesAll : List (Node × Node) → List (List String × Node)
  | [] => []
  | p :: rest => entriesOf p ++ entriesAll rest

def entriesOf : Node × Node → List (List String × Node)
  | (k, n) =>
    match k.asString? with
    | some name => (entries n).map fun e ↦ (name :: e.1, e.2)
    | none => []

end

mutual

theorem entries_toNode : (t : Tree) → t.toNode.entries = t.leaves.map fun l ↦ (l.1, l.2.toNode)
  | .bool _ => rfl
  | .integer _ => rfl
  | .string _ => rfl
  | .mapping pairs => by rw [Tree.toNode, entries, entriesAll_toNodes pairs, Tree.leaves]

theorem entriesAll_toNodes : (pairs : List (String × Tree)) →
    entriesAll (Tree.toNodes pairs) = (Tree.leavesAll pairs).map fun l ↦ (l.1, l.2.toNode)
  | [] => rfl
  | p :: rest => by
    rw [Tree.toNodes, entriesAll, entriesOf_pairToNode p, entriesAll_toNodes rest, Tree.leavesAll,
      List.map_append]

theorem entriesOf_pairToNode : (p : String × Tree) →
    entriesOf (.string p.1, Tree.pairToNode p) = (Tree.leavesOf p).map fun l ↦ (l.1, l.2.toNode)
  | (name, t) => by
    rw [Tree.pairToNode, entriesOf, asString?, entries_toNode t, Tree.leavesOf, List.map_map]
    simp only [List.map_map]
    rfl

end

end Yaml.Node

namespace Finding

open Yaml Node

/-- What an entry below a key sets, if it holds a value. -/
def settingOf? (key : String) (e : List String × Node) : Option (String × Value) :=
  (Value.ofNode? e.2).map fun v ↦ (e.1.foldl under key, v)

theorem settings_ofScalar (key : String) (n : Node) :
    (match Value.ofNode? n with
      | some v => [Finding.setting key v]
      | none => [Finding.strayValue key]).filterMap setting? =
      [([], n)].filterMap (settingOf? key) := by
  cases h : Value.ofNode? n <;> simp [settingOf?, h, setting?]

mutual

theorem settings_ofNode (key : String) : (n : Node) →
    (ofNode key n).filterMap setting? = n.entries.filterMap (settingOf? key)
  | .null => settings_ofScalar key .null
  | .bool b => settings_ofScalar key (.bool b)
  | .number n => settings_ofScalar key (.number n)
  | .string s => settings_ofScalar key (.string s)
  | .sequence items => settings_ofScalar key (.sequence items)
  | .tagged tag n => settings_ofScalar key (.tagged tag n)
  | .mapping pairs => by rw [ofNode, entries, settings_ofPairs key pairs]

/-- The settings of a document are the values among its entries, in the order of the document. -/
theorem settings_ofPairs (scope : String) : (pairs : List (Node × Node)) →
    (ofPairs scope pairs).filterMap setting? = (entriesAll pairs).filterMap (settingOf? scope)
  | [] => rfl
  | p :: rest => by
    rw [ofPairs, entriesAll, List.filterMap_append, List.filterMap_append, settings_ofPair scope p,
      settings_ofPairs scope rest]

theorem settings_ofPair (scope : String) : (p : Node × Node) →
    (ofPair scope p).filterMap setting? = (entriesOf p).filterMap (settingOf? scope)
  | (k, n) => by
    rw [ofPair, entriesOf]
    cases k.asString? with
    | none => rfl
    | some name =>
      simp only [settings_ofNode (under scope name) n, List.filterMap_map]
      rfl

end

/-- A chain of names in small letters, joined by dots. -/
def dottedPath (names : List String) : String := ".".intercalate (names.map Text.lower)

/-- The key of the entry at the end of a chain of names. -/
def keyOf (names : List String) : String := names.foldl under ""

theorem under_empty (name : String) : under "" name = Text.lower name := rfl

theorem under_of_ne {scope : String} (h : scope ≠ "") (name : String) :
    under scope name = scope ++ "." ++ Text.lower name := by
  rw [under, if_neg (by simpa using h)]

theorem foldl_under {scope : String} (h : scope ≠ "") (names : List String) :
    names.foldl under scope = ".".intercalate (scope :: names.map Text.lower) := by
  induction names generalizing scope with
  | nil => simp
  | cons name rest ih =>
    have hne : scope ++ "." ++ Text.lower name ≠ "" := by
      intro he
      have htext := congrArg String.toList he
      simp at htext
    rw [List.foldl_cons, under_of_ne h, ih hne]
    simp [String.append_assoc]

theorem keyOf_cons {name : String} (h : name ≠ "") (names : List String) :
    keyOf (name :: names) = dottedPath (name :: names) := by
  have hlower : Text.lower name ≠ "" := fun he ↦ h (Text.lower_eq_empty he)
  rw [keyOf, List.foldl_cons, under_empty, foldl_under hlower, dottedPath, List.map_cons]

/-- Unless the first name is empty and others follow it, the key is the names joined by dots. -/
theorem keyOf_eq_dottedPath {names : List String} (h : names.head? = some "" → names = [""]) :
    keyOf names = dottedPath names := by
  cases names with
  | nil => rfl
  | cons name rest =>
    by_cases hname : name = ""
    · rw [h (by rw [List.head?_cons, hname])]
      decide
    · exact keyOf_cons hname rest

theorem small_under {scope : String} (h : Text.Small scope) (name : String) :
    Text.Small (under scope name) := by
  rw [under]
  split
  · exact Text.small_lower name
  · exact (h.append (by decide)).append (Text.small_lower name)

theorem small_foldl_under {scope : String} (h : Text.Small scope) (names : List String) :
    Text.Small (names.foldl under scope) := by
  induction names generalizing scope with
  | nil => exact h
  | cons name rest ih => exact ih (small_under h name)

theorem map_lower_parts {k : String} (h : Text.Small k) : (parts k).map Text.lower = parts k := by
  refine (List.map_congr_left fun part hpart ↦ ?_).trans (List.map_id (parts k))
  exact (small_of_mem_parts h hpart).lower_eq

theorem dottedPath_parts {k : String} (h : Text.Small k) : dottedPath (parts k) = k := by
  rw [dottedPath, map_lower_parts h, intercalate_parts]

theorem parts_eq_of_not_begins {k : String} (h : ¬begins "." k) {rest : List String}
    (hparts : parts k = "" :: rest) : k = "" ∧ rest = [] := by
  cases rest with
  | nil => exact ⟨by rw [← intercalate_parts k, hparts, String.intercalate_singleton], rfl⟩
  | cons part rest =>
    refine absurd (begins_iff.2 ⟨".".intercalate (part :: rest), ?_⟩) h
    rw [← intercalate_parts k, hparts, String.intercalate_cons_cons]
    rfl

theorem keyOf_parts {k : String} (hsmall : Text.Small k) (h : ¬begins "." k) :
    keyOf (parts k) = k := by
  cases hparts : parts k with
  | nil => exact absurd hparts (parts_ne_nil k)
  | cons first rest =>
    by_cases hfirst : first = ""
    · subst hfirst
      obtain ⟨rfl, rfl⟩ := parts_eq_of_not_begins h hparts
      rfl
    · rw [keyOf_cons hfirst, ← hparts, dottedPath_parts hsmall]

theorem intercalate_cons_eq (name : String) (rest : List String) :
    ∃ t, ".".intercalate (name :: rest) = name ++ t := by
  cases rest with
  | nil => exact ⟨"", by simp⟩
  | cons next rest => exact ⟨"." ++ ".".intercalate (next :: rest), by simp [String.append_assoc]⟩

theorem not_begins_keyOf {names : List String}
    (h : ∀ name ∈ names, Text.Small name ∧ '.' ∉ name.toList) : ¬begins "." (keyOf names) := by
  induction names with
  | nil => decide
  | cons name rest ih =>
    by_cases hname : name = ""
    · -- an empty name in front leaves no trace in the key
      subst hname
      exact ih fun n hn ↦ h n (List.mem_cons_of_mem _ hn)
    · obtain ⟨hsmall, hdot⟩ := h name List.mem_cons_self
      rw [keyOf_cons hname, dottedPath, begins_iff, List.map_cons, hsmall.lower_eq]
      intro ⟨r, hr⟩
      obtain ⟨t, ht⟩ := intercalate_cons_eq name (rest.map Text.lower)
      have htext := congrArg String.toList (ht.symm.trans hr)
      cases hcs : name.toList with
      | nil => exact hname (String.toList_eq_nil_iff.1 hcs)
      | cons c cs =>
        rw [hcs] at hdot
        simp only [String.toList_append, hcs, List.cons_append] at htext
        exact hdot (List.head_eq_of_cons_eq htext ▸ List.mem_cons_self)

end Finding

end ConfigKeeper
